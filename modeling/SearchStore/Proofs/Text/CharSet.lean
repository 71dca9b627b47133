import Mathlib.Data.List.Chain
import SearchStore.Text.CharSet

/-!
# Members of character sets

The bounds of a set stand in ascending order, so a character is a member if an odd number of bounds lie at or below it
(`CharSet.inside_eq_parity`). Counted like that, bounds that cancel out make no difference, and a sweep over the bounds
of two sets changes where the combination does: the operations on sets are those on membership (`CharSet.holds_combine`,
`CharSet.holds_complement`, `CharSet.holds_ofRanges`). The set of word characters is one of them (`CharSet.holds_word`).
-/

namespace SearchStore

namespace CharSet

/-! ### Counting bounds -/

/-- Whether an odd number of bounds, in whatever order, lie at or below `n`. -/
def parity (n : Nat) (bounds : List Nat) : Bool :=
  bounds.foldr (fun b odd => decide (b ≤ n) != odd) false

/-- The bounds stand in ascending order. -/
def IsAscending (set : CharSet) : Prop := set.bounds.Pairwise (· ≤ ·)

@[simp]
theorem parity_nil (n : Nat) : parity n [] = false := rfl

@[simp]
theorem parity_cons (n b : Nat) (bounds : List Nat) : parity n (b :: bounds) = (decide (b ≤ n) != parity n bounds) := rfl

theorem parity_append (n : Nat) (front rest : List Nat) :
    parity n (front ++ rest) = (parity n front != parity n rest) := by
  induction front with
  | nil => simp
  | cons b front ih => rw [List.cons_append, parity_cons, ih, parity_cons, Bool.bne_assoc]

theorem parity_of_forall_lt {n : Nat} {bounds : List Nat} (h : ∀ b ∈ bounds, n < b) : parity n bounds = false := by
  induction bounds with
  | nil => rfl
  | cons b bounds ih =>
    obtain ⟨hb, hrest⟩ := List.forall_mem_cons.mp h
    simp [ih hrest, hb]

theorem inside_eq_parity {bounds : List Nat} (h : bounds.Pairwise (· ≤ ·)) (n : Nat) :
    inside n bounds = parity n bounds := by
  induction bounds with
  | nil => rfl
  | cons b bounds ih =>
    obtain ⟨hb, hrest⟩ := List.pairwise_cons.mp h
    rw [inside, parity_cons]
    split
    · rename_i hle
      simp [ih hrest, hle]
    · rename_i hlt
      have hnone : parity n bounds = false :=
        parity_of_forall_lt fun b' hb' => Nat.lt_of_lt_of_le (Nat.lt_of_not_le hlt) (hb b' hb')
      simp [hnone, hlt]

/-! ### Bounds that cancel out -/

theorem cancel_sublist (bounds : List Nat) : (cancel bounds).Sublist bounds := by
  induction bounds with
  | nil => exact .slnil
  | cons b bounds ih =>
    rw [cancel]
    split
    · exact .cons_cons b (List.nil_sublist bounds)
    · rename_i b' rest hcancel
      rw [hcancel] at ih
      split
      · exact .cons b ((List.sublist_cons_self b' rest).trans ih)
      · exact .cons_cons b ih

theorem parity_cancel (n : Nat) (bounds : List Nat) : parity n (cancel bounds) = parity n bounds := by
  induction bounds with
  | nil => rfl
  | cons b bounds ih =>
    rw [cancel, parity_cons, ← ih]
    split
    · rename_i hcancel
      rw [hcancel, parity_cons]
    · rename_i b' rest hcancel
      rw [hcancel]
      split
      · rename_i heq
        simp [heq]
      · rfl

theorem isAscending_cancel {bounds : List Nat} (h : bounds.Pairwise (· ≤ ·)) :
    (CharSet.mk (cancel bounds)).IsAscending := h.sublist (cancel_sublist bounds)

theorem IsAscending.holds_eq {set : CharSet} (h : set.IsAscending) (c : Char) :
    set.holds c = parity c.toNat set.bounds := inside_eq_parity h c.toNat

theorem holds_cancel {bounds : List Nat} (h : bounds.Pairwise (· ≤ ·)) (c : Char) :
    (CharSet.mk (cancel bounds)).holds c = parity c.toNat bounds := by
  rw [(isAscending_cancel h).holds_eq, parity_cancel]

/-! ### Two sets -/

/-- The bounds of one of two sets, among those of both. -/
def side (second : Bool) (events : List (Nat × Bool)) : List Nat :=
  events.filterMap fun event => if event.2 = second then some event.1 else none

theorem side_sublist (second : Bool) (events : List (Nat × Bool)) : (side second events).Sublist (events.map Prod.fst) := by
  induction events with
  | nil => exact .slnil
  | cons event events ih =>
    rw [side, List.filterMap_cons, ← side, List.map_cons]
    by_cases hsecond : event.2 = second
    · simpa only [hsecond, if_true] using ih.cons_cons event.1
    · simpa only [hsecond, if_false] using ih.cons event.1

theorem weave_cons_nil (b : Nat) (bounds : List Nat) : weave (b :: bounds) [] = (b, false) :: weave bounds [] := rfl

theorem weave_cons_cons (b b' : Nat) (bounds others : List Nat) :
    weave (b :: bounds) (b' :: others) =
      if b ≤ b' then (b, false) :: weave bounds (b' :: others) else (b', true) :: weave (b :: bounds) others := rfl

theorem side_weave (bounds others : List Nat) :
    side false (weave bounds others) = bounds ∧ side true (weave bounds others) = others := by
  induction bounds generalizing others with
  | nil => simp [weave, side, List.filterMap_map]
  | cons b bounds ih =>
    induction others with
    | nil => simpa [weave_cons_nil, side] using ih []
    | cons b' others ihOthers =>
      rw [weave_cons_cons]
      split
      · simpa [side] using ih (b' :: others)
      · simpa [side] using ihOthers

theorem mem_weave {event : Nat × Bool} {bounds others : List Nat} (h : event ∈ weave bounds others) :
    event.1 ∈ bounds ∨ event.1 ∈ others := by
  obtain ⟨hbounds, hothers⟩ := side_weave bounds others
  have hside : event.1 ∈ side event.2 (weave bounds others) := List.mem_filterMap.mpr ⟨event, h, if_pos rfl⟩
  cases hsecond : event.2 with
  | false => exact .inl (by rwa [hsecond, hbounds] at hside)
  | true => exact .inr (by rwa [hsecond, hothers] at hside)

theorem pairwise_weave {bounds others : List Nat} (h : bounds.Pairwise (· ≤ ·)) (ho : others.Pairwise (· ≤ ·)) :
    (weave bounds others).Pairwise (fun event event' => event.1 ≤ event'.1) := by
  induction bounds generalizing others with
  | nil => simpa [weave, List.pairwise_map] using ho
  | cons b bounds ih =>
    obtain ⟨hb, hrest⟩ := List.pairwise_cons.mp h
    induction others with
    | nil =>
      refine List.pairwise_cons.mpr ⟨?_, ih hrest .nil⟩
      intro event hevent
      exact hb _ ((mem_weave hevent).resolve_right List.not_mem_nil)
    | cons b' others ihOthers =>
      obtain ⟨hb', hrest'⟩ := List.pairwise_cons.mp ho
      rw [weave_cons_cons]
      split
      · rename_i hle
        refine List.pairwise_cons.mpr ⟨?_, ih hrest ho⟩
        intro event hevent
        obtain hmem | hmem := mem_weave hevent
        · exact hb _ hmem
        · exact hle.trans (List.forall_mem_cons.mpr ⟨le_rfl, hb'⟩ _ hmem)
      · rename_i hlt
        refine List.pairwise_cons.mpr ⟨?_, ihOthers hrest'⟩
        intro event hevent
        obtain hmem | hmem := mem_weave hevent
        · exact (Nat.le_of_not_le hlt).trans (List.forall_mem_cons.mpr ⟨le_rfl, hb⟩ _ hmem)
        · exact hb' _ hmem

theorem sweep_sublist (op : Bool → Bool → Bool) (left right : Bool) (events : List (Nat × Bool)) :
    (sweep op left right events).Sublist (events.map Prod.fst) := by
  induction events generalizing left right with
  | nil => exact .slnil
  | cons event events ih =>
    rw [sweep, List.map_cons]
    split
    · exact .cons event.1 (ih _ _)
    · exact .cons_cons event.1 (ih _ _)

/-- A sweep counts the changes of the combination from before the first bound up to `n`. -/
theorem parity_sweep (op : Bool → Bool → Bool) (n : Nat) {events : List (Nat × Bool)}
    (h : events.Pairwise (fun event event' => event.1 ≤ event'.1)) (left right : Bool) :
    parity n (sweep op left right events) =
      (op left right != op (left != parity n (side false events)) (right != parity n (side true events))) := by
  induction events generalizing left right with
  | nil => simp [sweep, side]
  | cons event events ih =>
    obtain ⟨b, second⟩ := event
    obtain ⟨hb, hrest⟩ := List.pairwise_cons.mp h
    by_cases hle : b ≤ n
    · have hstep := ih hrest (left != !second) (right != second)
      have hfalse : parity n (side false ((b, second) :: events)) = ((!second) != parity n (side false events)) := by
        cases second <;> simp [side, hle]
      have htrue : parity n (side true ((b, second) :: events)) = (second != parity n (side true events)) := by
        cases second <;> simp [side, hle]
      rw [hfalse, htrue, ← Bool.bne_assoc, ← Bool.bne_assoc, sweep]
      split
      · rename_i hsame
        rw [hstep, hsame]
      · rename_i hchange
        rw [parity_cons, hstep]
        revert hchange
        cases op (left != !second) (right != second) <;> cases op left right <;> simp [hle]
    · -- All bounds lie above `n`, so neither membership nor the combination has changed up to it.
      have hlater : ∀ b' ∈ ((b, second) :: events).map Prod.fst, n < b' := by
        have hbn := Nat.lt_of_not_le hle
        rw [List.forall_mem_map]
        exact List.forall_mem_cons.mpr ⟨hbn, fun event hevent => Nat.lt_of_lt_of_le hbn (hb event hevent)⟩
      have hsweep : parity n (sweep op left right ((b, second) :: events)) = false :=
        parity_of_forall_lt fun b' hb' => hlater b' ((sweep_sublist op left right _).mem hb')
      have hside : ∀ which, parity n (side which ((b, second) :: events)) = false :=
        fun which => parity_of_forall_lt fun b' hb' => hlater b' ((side_sublist which _).mem hb')
      simp [hsweep, hside]

/-! ### Boolean algebra -/

variable {s t : CharSet}

theorem pairwise_sweep_weave (op : Bool → Bool → Bool) (hs : s.IsAscending) (ht : t.IsAscending) :
    (sweep op false false (weave s.bounds t.bounds)).Pairwise (· ≤ ·) :=
  (List.pairwise_map.mpr (pairwise_weave hs ht)).sublist (sweep_sublist op false false _)

theorem isAscending_combine (op : Bool → Bool → Bool) (hs : s.IsAscending) (ht : t.IsAscending) :
    (combine op s t).IsAscending := isAscending_cancel (pairwise_sweep_weave op hs ht)

theorem holds_combine (op : Bool → Bool → Bool) (hop : op false false = false) (hs : s.IsAscending)
    (ht : t.IsAscending) (c : Char) : (combine op s t).holds c = op (s.holds c) (t.holds c) := by
  obtain ⟨hleft, hright⟩ := side_weave s.bounds t.bounds
  rw [combine, holds_cancel (pairwise_sweep_weave op hs ht), parity_sweep op _ (pairwise_weave hs ht), hop, hleft,
    hright, hs.holds_eq, ht.holds_eq, Bool.false_bne, Bool.false_bne, Bool.false_bne]

theorem isAscending_empty : empty.IsAscending := .nil

theorem isAscending_union (hs : s.IsAscending) (ht : t.IsAscending) : (s.union t).IsAscending :=
  isAscending_combine _ hs ht

theorem holds_union (hs : s.IsAscending) (ht : t.IsAscending) (c : Char) :
    (s.union t).holds c = (s.holds c || t.holds c) := holds_combine (· || ·) rfl hs ht c

theorem holds_complement (hs : s.IsAscending) (c : Char) : s.complement.holds c = !s.holds c := by
  have hbounds : (0 :: s.bounds).Pairwise (· ≤ ·) := List.pairwise_cons.mpr ⟨fun b _ => Nat.zero_le b, hs⟩
  rw [complement, holds_cancel hbounds, parity_cons, hs.holds_eq]
  simp

/-! ### Ranges -/

theorem toNat_lt_limit (c : Char) : c.toNat < limit := by
  have hvalid := c.valid
  simp only [UInt32.isValidChar, Nat.isValidChar] at hvalid
  have hcode : c.toNat = c.val.toNat := rfl
  simp only [limit, hcode]
  omega

theorem holds_ofRange (low high : Nat) (c : Char) :
    (ofRange low high).holds c = (decide (low ≤ c.toNat) && decide (c.toNat ≤ high)) := by
  have hc := toNat_lt_limit c
  rw [ofRange, holds]
  split
  · grind [inside]
  · grind [inside]

theorem isAscending_ofRange {low high : Nat} (h : low ≤ high + 1) : (ofRange low high).IsAscending := by
  rw [ofRange, IsAscending]
  split
  · simpa using h
  · exact List.pairwise_singleton _ _

theorem isAscending_single (c : Char) : (single c).IsAscending := isAscending_ofRange (Nat.le_succ _)

theorem holds_single (c d : Char) : (single c).holds d = (d == c) := by
  rw [single, range, holds_ofRange, Bool.eq_iff_iff]
  simp only [Bool.and_eq_true, decide_eq_true_eq, beq_iff_eq]
  constructor
  · intro h
    exact Char.toNat_inj.mp (Nat.le_antisymm h.2 h.1)
  · rintro rfl
    exact ⟨le_rfl, le_rfl⟩

/-- Ranges that stand in ascending order and do not overlap. -/
def AreAscending (ranges : List (Nat × Nat)) : Prop :=
  (ranges.flatMap fun range => [range.1, range.2 + 1]).IsChain (· ≤ ·)

instance (ranges : List (Nat × Nat)) : Decidable (AreAscending ranges) :=
  inferInstanceAs (Decidable (List.IsChain _ _))

theorem ofRange_bounds_sublist (range : Nat × Nat) :
    (ofRange range.1 range.2).bounds.Sublist [range.1, range.2 + 1] := by
  rw [ofRange]
  split
  · exact .refl _
  · exact .cons_cons _ (List.nil_sublist _)

theorem AreAscending.pairwise {ranges : List (Nat × Nat)} (h : AreAscending ranges) :
    (ranges.flatMap fun range => (ofRange range.1 range.2).bounds).Pairwise (· ≤ ·) := by
  have hsublist : (ranges.flatMap fun range => (ofRange range.1 range.2).bounds).Sublist
      (ranges.flatMap fun range => [range.1, range.2 + 1]) := by
    induction ranges with
    | nil => exact .slnil
    | cons range ranges ih =>
      rw [List.flatMap_cons, List.flatMap_cons]
      exact (ofRange_bounds_sublist range).append (ih (List.IsChain.right_of_append h))
  exact (List.isChain_iff_pairwise.mp h).sublist hsublist

theorem isAscending_ofRanges {ranges : List (Nat × Nat)} (h : AreAscending ranges) : (ofRanges ranges).IsAscending :=
  isAscending_cancel h.pairwise

theorem holds_ofRanges {ranges : List (Nat × Nat)} (h : AreAscending ranges) (c : Char) :
    (ofRanges ranges).holds c = Text.inRanges ranges c := by
  rw [ofRanges, holds_cancel h.pairwise]
  induction ranges with
  | nil => rfl
  | cons range ranges ih =>
    have hpair := List.isChain_iff_pairwise.mp h
    rw [List.flatMap_cons, List.pairwise_append] at hpair
    obtain ⟨hrange, -, hlater⟩ := hpair
    have hascending : (ofRange range.1 range.2).IsAscending := isAscending_ofRange (by simpa using hrange)
    rw [List.flatMap_cons, parity_append, ← hascending.holds_eq, holds_ofRange, ih (List.IsChain.right_of_append h)]
    simp only [Text.inRanges, List.any_cons]
    by_cases hin : range.1 ≤ c.toNat ∧ c.toNat ≤ range.2
    · -- A character lies in one range only.
      have hnone : ranges.any (fun range => decide (range.1 ≤ c.toNat) && decide (c.toNat ≤ range.2)) = false := by
        rw [List.any_eq_false]
        intro other hother
        have hbound : other.1 ∈ ranges.flatMap fun range => [range.1, range.2 + 1] :=
          List.mem_flatMap.mpr ⟨other, hother, List.mem_cons_self⟩
        have hgap : range.2 + 1 ≤ other.1 := hlater _ (List.mem_cons_of_mem _ List.mem_cons_self) _ hbound
        simp only [Bool.and_eq_true, decide_eq_true_eq]
        omega
      simp [hnone, hin]
    · have hout : (decide (range.1 ≤ c.toNat) && decide (c.toNat ≤ range.2)) = false := by simpa using hin
      rw [hout, Bool.false_bne, Bool.false_or]

/-! ### Word characters -/

/-- The word characters of ASCII, as ranges. -/
def asciiWordRanges : List (Nat × Nat) := [(0x30, 0x39), (0x41, 0x5A), (0x5F, 0x5F), (0x61, 0x7A)]

theorem inRanges_asciiWordRanges {c : Char} (h : c.toNat < 128) :
    Text.inRanges asciiWordRanges c = (c.isAlphanum || c == '_') := by
  have hall : ∀ n < 128, Text.inRanges asciiWordRanges (Char.ofNat n) =
      ((Char.ofNat n).isAlphanum || Char.ofNat n == '_') := by decide
  have hc := hall c.toNat h
  rwa [Char.ofNat_toNat] at hc

theorem areAscending_wordRanges : AreAscending (asciiWordRanges ++ Text.wordRanges) := by decide +kernel

theorem isAscending_word : word.IsAscending := isAscending_ofRanges areAscending_wordRanges

theorem holds_word (c : Char) : word.holds c = Text.isWordChar c := by
  rw [word, ← asciiWordRanges, holds_ofRanges areAscending_wordRanges, Text.inRanges, List.any_append,
    ← Text.inRanges, ← Text.inRanges, Text.isWordChar]
  split
  · rename_i hascii
    have hfar : ∀ range ∈ Text.wordRanges, 128 ≤ range.1 := by decide +kernel
    have hnone : Text.inRanges Text.wordRanges c = false := by
      rw [Text.inRanges, List.any_eq_false]
      intro range hrange
      have hlow := hfar range hrange
      simp only [Bool.and_eq_true, decide_eq_true_eq]
      omega
    rw [hnone, Bool.or_false, inRanges_asciiWordRanges hascii]
  · rename_i hwide
    have hnear : ∀ range ∈ asciiWordRanges, range.2 < 128 := by decide
    have hnone : Text.inRanges asciiWordRanges c = false := by
      rw [Text.inRanges, List.any_eq_false]
      intro range hrange
      have hhigh := hnear range hrange
      simp only [Bool.and_eq_true, decide_eq_true_eq]
      omega
    rw [hnone, Bool.false_or]

end CharSet

end SearchStore
