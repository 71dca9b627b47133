import SearchStore.Proofs.Duration.Parts
import SearchStore.Proofs.Text.Digits

/-!
# Durations that are written and read again

The scanner adds a part and goes on behind the space that follows it (`scan_part`), so a text of parts is read as
their sum if that fits (`scan_join`). A duration is the sum of the parts in which it is written, and is read back
(`parse_render`).
-/

namespace SearchStore.Duration

/-! ### Scanning one part -/

/-- Looks for the next number and reads on from there. Reading goes on this way behind every space. -/
def scan (fuel : Nat) (d : Duration) (rest : Rest) : Except Fault Duration := do
  match ← firstDigit rest.offset rest.offset rest.chars with
  | none => .ok d
  | some (next, rest) => scanParts fuel d next rest

theorem le_ofDigitChars (digits : List Char) (n : Nat) : n ≤ Nat.ofDigitChars 10 digits n := by
  rw [Nat.ofDigitChars_eq_ofDigitChars_zero]
  have hpow : 0 < 10 ^ digits.length := Nat.pow_pos (by decide)
  have hscaled : n ≤ 10 ^ digits.length * n := Nat.le_mul_of_pos_left n hpow
  omega

/-- Digits go on with the number, as far as it fits. -/
theorem scanNumber_digits {digits : List Char} (hdigits : ∀ c ∈ digits, c.isDigit = true) {whole : Nat}
    (hfits : Nat.ofDigitChars 10 digits whole < UInt64.size) (offset : Nat) (rest : List Char) :
    scanNumber whole offset (digits ++ rest) =
      scanNumber (Nat.ofDigitChars 10 digits whole) (digits.foldl after offset) rest := by
  induction digits generalizing whole offset with
  | nil => rw [Nat.ofDigitChars_nil, List.nil_append, List.foldl_nil]
  | cons c digits ih =>
    obtain ⟨hc, hlater⟩ := List.forall_mem_cons.mp hdigits
    rw [Nat.ofDigitChars_cons, Nat.mul_comm] at hfits ⊢
    have hword : word (whole * 10 + (c.toNat - '0'.toNat)) = .ok (whole * 10 + (c.toNat - '0'.toNat)) :=
      word_of_lt (Nat.lt_of_le_of_lt (le_ofDigitChars digits _) hfits)
    rw [List.cons_append, scanNumber, if_pos hc, hword, List.foldl_cons]
    exact ih hlater hfits _

theorem scanNumber_letter {c : Char} (hdigit : c.isDigit = false) (hblank : Text.isBlankChar c = false)
    (hletter : isUnitChar c = true) (whole offset : Nat) (rest : List Char) :
    scanNumber whole offset (c :: rest) = .ok (⟨whole, none⟩, ⟨offset, c :: rest⟩) := by
  simp [scanNumber, hdigit, hblank, hletter]

theorem scanUnit_letters {letters : List Char}
    (hletters : ∀ c ∈ letters, c.isDigit = false ∧ Text.isBlankChar c = false ∧ isUnitChar c = true)
    (spelling : List Char) (offset : Nat) (rest : List Char) :
    scanUnit spelling offset (letters ++ rest) =
      scanUnit (letters.reverse ++ spelling) (letters.foldl after offset) rest := by
  induction letters generalizing spelling offset with
  | nil => rfl
  | cons c letters ih =>
    obtain ⟨⟨hdigit, hblank, hletter⟩, hlater⟩ := List.forall_mem_cons.mp hletters
    have hstep : scanUnit spelling offset (c :: letters ++ rest) =
        scanUnit (c :: spelling) (after offset c) (letters ++ rest) := by
      simp [scanUnit, hdigit, hblank, hletter]
    rw [hstep, ih hlater, List.foldl_cons]
    simp

/-- The text ends, or goes on behind a space. -/
def IsGap (rest : List Char) : Prop := ∀ c ∈ rest.head?, Text.isBlankChar c = true

theorem scanUnit_gap {rest : List Char} (hrest : IsGap rest) (spelling : List Char) (offset : Nat) :
    ∃ behind, scanUnit spelling offset rest =
      .ok (String.ofList spelling.reverse, .gap ⟨behind, rest.tail⟩) := by
  cases rest with
  | nil => exact ⟨offset, rfl⟩
  | cons c rest =>
    have hblank : Text.isBlankChar c = true := hrest c rfl
    have hdigit : c.isDigit = false := by
      by_contra hdigit
      rw [Bool.not_eq_false] at hdigit
      rw [Text.isBlankChar_of_isDigit hdigit] at hblank
      cases hblank
    exact ⟨after offset c, by simp [scanUnit, hdigit, hblank]⟩

namespace Part

/-- A part begins with a digit and goes on with the digits of its count and the letters of its unit. -/
theorem text_toList (p : Part) :
    ∃ c digits, p.text.toList = c :: (digits ++ p.spelling.toList) ∧ c.isDigit = true ∧
      (∀ c ∈ digits, c.isDigit = true) ∧ Nat.ofDigitChars 10 digits (c.toNat - '0'.toNat) = p.count := by
  obtain ⟨c, digits, hdigits⟩ := List.exists_cons_of_ne_nil (Nat.toDigits_ne_nil (n := p.count) (b := 10))
  have hall : ∀ d ∈ c :: digits, d.isDigit = true := fun d hd => Text.isDigit_of_mem_toDigits (hdigits ▸ hd)
  obtain ⟨hc, hlater⟩ := List.forall_mem_cons.mp hall
  have hcount : Nat.ofDigitChars 10 (c :: digits) 0 = p.count := by
    rw [← hdigits, Nat.ofDigitChars_ten_toDigits]
  rw [Nat.ofDigitChars_cons, Nat.mul_zero, Nat.zero_add] at hcount
  refine ⟨c, digits, ?_, hc, hlater, hcount⟩
  rw [text, Nat.toString_eq_ofList_toDigits, hdigits, String.toList_append, String.toList_ofList, List.cons_append]

theorem count_le (p : Part) : p.count ≤ p.seconds ∨ p.count ≤ p.nanos := by
  have hunit : 0 < p.unit.wholeSeconds ∨ 0 < p.unit.fractionNanos := by
    cases p.unit <;> decide
  rcases hunit with hwhole | hfraction
  · exact .inl (Nat.le_mul_of_pos_right p.count hwhole)
  · exact .inr (Nat.le_mul_of_pos_right p.count hfraction)

end Part

theorem scanUnit_spelling {spelling : String} (hspelling : TimeUnit.IsText spelling) {rest : List Char}
    (hrest : IsGap rest) (offset : Nat) :
    ∃ behind, scanUnit [] offset (spelling.toList ++ rest) = .ok (spelling, .gap ⟨behind, rest.tail⟩) := by
  obtain ⟨behind, hgap⟩ := scanUnit_gap hrest (spelling.toList.reverse ++ []) (spelling.toList.foldl after offset)
  refine ⟨behind, ?_⟩
  rw [scanUnit_letters hspelling.2, hgap, List.append_nil, List.reverse_reverse, String.ofList_toList]

theorem scanNumber_spelling {digits : List Char} (hdigits : ∀ c ∈ digits, c.isDigit = true) {whole : Nat}
    (hfits : Nat.ofDigitChars 10 digits whole < UInt64.size) {spelling : String}
    (hspelling : TimeUnit.IsText spelling) (offset : Nat) (rest : List Char) :
    scanNumber whole offset (digits ++ (spelling.toList ++ rest)) =
      .ok (⟨Nat.ofDigitChars 10 digits whole, none⟩, ⟨digits.foldl after offset, spelling.toList ++ rest⟩) := by
  obtain ⟨letter, letters, hunit⟩ := List.exists_cons_of_ne_nil hspelling.toList_ne_nil
  obtain ⟨hdigit, hblank, hletter⟩ := hspelling.2 letter (hunit ▸ List.mem_cons_self)
  rw [scanNumber_digits hdigits hfits, hunit, List.cons_append, scanNumber_letter hdigit hblank hletter]

/-- A part is read and added, and reading goes on behind the space that follows it. -/
theorem scan_part {p : Part} {d : Duration} (hseconds : d.seconds + p.seconds < UInt64.size)
    (hnanos : d.nanos + p.nanos < 1_000_000_000) {rest : List Char} (hrest : IsGap rest) (fuel offset : Nat) :
    ∃ behind, scan (fuel + 1) d ⟨offset, p.text.toList ++ rest⟩ =
      scan fuel ⟨d.seconds + p.seconds, d.nanos + p.nanos⟩ ⟨behind, rest.tail⟩ := by
  obtain ⟨c, digits, htext, hc, hdigits, hcount⟩ := p.text_toList
  have hspelling : TimeUnit.IsText p.spelling := TimeUnit.isText_spelling p.count p.unit
  have hfits : Nat.ofDigitChars 10 digits (c.toNat - '0'.toNat) < UInt64.size := by
    rw [hcount]
    have hsecond : 1_000_000_000 < UInt64.size := by decide
    have hle := p.count_le
    omega
  have hfirst : firstDigit offset offset (c :: (digits ++ (p.spelling.toList ++ rest))) =
      .ok (some (c.toNat - '0'.toNat, ⟨after offset c, digits ++ (p.spelling.toList ++ rest)⟩)) := if_pos hc
  have hnumber := scanNumber_spelling hdigits hfits hspelling (after offset c) rest
  obtain ⟨behind, hunit⟩ := scanUnit_spelling hspelling hrest (digits.foldl after (after offset c))
  have hadd := p.addQuantity_eq hseconds hnanos
  rw [hcount] at hnumber
  refine ⟨behind, ?_⟩
  rw [htext, List.cons_append, List.append_assoc, scan]
  simp only [hfirst, scanParts, hnumber, hunit, hadd, bind, Except.bind]
  rfl

/-! ### Scanning all parts -/

theorem join_cons (s : String) (texts : List String) :
    ∃ rest, (Text.join " " (s :: texts)).toList = s.toList ++ rest ∧ IsGap rest ∧
      rest.tail = (Text.join " " texts).toList := by
  cases texts with
  | nil => exact ⟨[], by simp [Text.join], by simp [IsGap], rfl⟩
  | cons t texts =>
    refine ⟨' ' :: (Text.join " " (t :: texts)).toList, ?_, ?_, rfl⟩
    · rw [Text.join, String.toList_append, String.toList_append, List.append_assoc]
      rfl
    · intro c hc
      obtain rfl : ' ' = c := by simpa using hc
      decide

/-- Parts with a space between each two are read as their sum, if that fits. -/
theorem scan_join {parts : List Part} {d : Duration}
    (hseconds : d.seconds + (Part.sum parts).seconds < UInt64.size)
    (hnanos : d.nanos + (Part.sum parts).nanos < 1_000_000_000) {fuel : Nat}
    (hfuel : (Text.join " " (parts.map Part.text)).toList.length ≤ fuel) (offset : Nat) :
    scan fuel d ⟨offset, (Text.join " " (parts.map Part.text)).toList⟩ =
      .ok ⟨d.seconds + (Part.sum parts).seconds, d.nanos + (Part.sum parts).nanos⟩ := by
  -- Every part takes characters, so the fuel outlasts the parts.
  induction parts generalizing d fuel offset with
  | nil => rfl
  | cons p parts ih =>
    obtain ⟨rest, htext, hrest, htail⟩ := join_cons p.text (parts.map Part.text)
    obtain ⟨c, digits, hpart, -⟩ := p.text_toList
    rw [Part.sum_cons_seconds, ← Nat.add_assoc] at hseconds
    rw [Part.sum_cons_nanos, ← Nat.add_assoc] at hnanos
    rw [List.map_cons, htext] at hfuel ⊢
    cases fuel with
    | zero => simp [hpart] at hfuel
    | succ fuel =>
      obtain ⟨behind, hscan⟩ := scan_part (Nat.lt_of_le_of_lt (Nat.le_add_right _ _) hseconds)
        (Nat.lt_of_le_of_lt (Nat.le_add_right _ _) hnanos) hrest fuel offset
      have hshorter : (Text.join " " (parts.map Part.text)).toList.length ≤ fuel := by
        rw [hpart, List.length_append, List.length_cons] at hfuel
        rw [← htail, List.length_tail]
        omega
      rw [hscan, htail, ih hseconds hnanos hshorter behind, Part.sum_cons_seconds, Part.sum_cons_nanos,
        Nat.add_assoc, Nat.add_assoc]

theorem parse_eq_scan {text : String} {c : Char} {rest : List Char} (htext : text.toList = c :: rest)
    (hc : c.isDigit = true) (hrest : rest ≠ []) :
    parse text = scan (text.toList.length + 1) ⟨0, 0⟩ ⟨0, text.toList⟩ := by
  -- The text of a zero alone is read without a unit.
  have hzero : text ≠ "0" := by
    rintro rfl
    exact hrest (List.cons.inj htext).2.symm
  have hfirst : firstDigit 0 0 text.toList = .ok (some (c.toNat - '0'.toNat, ⟨after 0 c, rest⟩)) := by
    rw [htext]
    exact if_pos hc
  rw [parse, if_neg hzero, scan]
  simp only [hfirst, bind, Except.bind]

/-! ### Writing and reading -/

/-- The parts of a duration in which it is written: those that count something. -/
def written (d : Duration) : List Part := d.parts.filter fun p => p.count ≠ 0

theorem sum_written (d : Duration) : Part.sum d.written = d := by
  rw [written, Part.sum_filter, sum_parts]

theorem map_text_filter (parts : List Part) :
    (parts.filter fun p => p.count ≠ 0).map Part.text = parts.flatMap fun p => part p.spelling p.count := by
  induction parts with
  | nil => rfl
  | cons p parts ih =>
    rw [List.flatMap_cons, ← ih, part]
    by_cases hp : p.count = 0
    · rw [List.filter_cons_of_neg (by simpa using hp), if_pos hp, List.nil_append]
    · rw [List.filter_cons_of_pos (by simpa using hp), if_neg hp]
      rfl

theorem render_eq (d : Duration) :
    d.render = if d.written.isEmpty then "0s" else Text.join " " (d.written.map Part.text) := by
  have hyear : ∀ n, pluralPart "year" n = part (TimeUnit.year.spelling n) n := fun _ => rfl
  have hmonth : ∀ n, pluralPart "month" n = part (TimeUnit.month.spelling n) n := fun _ => rfl
  have hday : ∀ n, pluralPart "day" n = part (TimeUnit.day.spelling n) n := fun _ => rfl
  have htexts : d.written.map Part.text = _ := map_text_filter d.parts
  have hempty : d.written.isEmpty = (d.written.map Part.text).isEmpty := List.isEmpty_map.symm
  rw [hempty, htexts, render]
  simp only [parts, List.flatMap_cons, List.flatMap_nil, List.append_nil, List.append_assoc, Part.spelling, hyear,
    hmonth, hday]
  rfl

/-- **A duration that fits is read back from its text.** -/
theorem parse_render {d : Duration} (h : d.IsValid) : parse d.render = .ok d := by
  have hsum := sum_written d
  rw [render_eq]
  cases hwritten : d.written with
  | nil =>
    -- Only the empty duration has no part that counts something.
    rw [hwritten] at hsum
    subst hsum
    decide
  | cons p parts =>
    obtain ⟨c, digits, hpart, hc, -⟩ := p.text_toList
    obtain ⟨rest, htext, -⟩ := join_cons p.text (parts.map Part.text)
    have hletters : (digits ++ p.spelling.toList) ++ rest ≠ [] := by
      have hspelling := (TimeUnit.isText_spelling p.count p.unit).toList_ne_nil
      exact List.append_ne_nil_of_left_ne_nil (List.append_ne_nil_of_right_ne_nil _ hspelling) _
    rw [hwritten] at hsum
    rw [hpart, List.cons_append] at htext
    rw [if_neg (by simp), List.map_cons, parse_eq_scan htext hc hletters, ← List.map_cons]
    rw [scan_join (by simpa [hsum] using h.1) (by simpa [hsum] using h.2) (Nat.le_add_right _ _)]
    simp [hsum]

end SearchStore.Duration
