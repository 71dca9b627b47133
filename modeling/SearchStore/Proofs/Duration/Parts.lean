import SearchStore.Duration.Parser
import SearchStore.Proofs.Results

/-!
# Parts of durations

A duration is written as a list of parts, each a count of one unit. Whatever is read has seconds that fit 64 bits and
less than a second in nanoseconds (`valid_of_parse`). The parts in which a valid duration is written
(`Duration.parts`) add up to it again (`sum_parts`): the seconds of the longer units, and the nanoseconds of the
shorter ones.
-/

namespace SearchStore.Duration

/-! ### Durations that fit -/

/-- Seconds that fit 64 bits, and less than a second in nanoseconds. -/
def IsValid (d : Duration) : Prop := d.seconds < UInt64.size ∧ d.nanos < 1_000_000_000

theorem word_of_lt {n : Nat} (h : n < UInt64.size) : word n = .ok n := if_pos h

theorem lt_of_word_eq_ok {n m : Nat} (h : word n = .ok m) : m < UInt64.size := by
  unfold word at h
  split at h
  · cases h
    assumption
  · cases h

theorem add_of_lt {d : Duration} {seconds nanos : Nat} (hseconds : d.seconds + seconds < UInt64.size)
    (hnanos : d.nanos + nanos < 1_000_000_000) : d.add seconds nanos = .ok ⟨d.seconds + seconds, d.nanos + nanos⟩ := by
  have hcarry : (d.nanos + nanos) / 1_000_000_000 = 0 := Nat.div_eq_of_lt hnanos
  have htotal : word (d.nanos + nanos) = .ok (d.nanos + nanos) := word_of_lt (Nat.lt_trans hnanos (by decide))
  have hword : word (d.seconds + seconds) = .ok (d.seconds + seconds) := word_of_lt hseconds
  simp only [add, htotal, hcarry, hword, Nat.add_zero, Nat.mod_eq_of_lt hnanos, bind, Except.bind]

theorem valid_of_add {d sum : Duration} {seconds nanos : Nat} (h : d.add seconds nanos = .ok sum) : sum.IsValid := by
  obtain ⟨total, -, h⟩ := exists_of_bind_eq_ok h
  obtain ⟨whole, hwhole, h⟩ := exists_of_bind_eq_ok h
  cases h
  exact ⟨lt_of_word_eq_ok hwhole, Nat.mod_lt total (by decide)⟩

theorem valid_of_addQuantity {d sum : Duration} {q : Quantity} {spelling : String}
    (h : d.addQuantity q spelling = .ok sum) : sum.IsValid := by
  unfold addQuantity at h
  split at h
  · dsimp only at h
    -- The whole units are counted in seconds or in nanoseconds, and then a fraction of one may be added.
    split at h
    all_goals
      obtain ⟨_, -, h⟩ := exists_of_bind_eq_ok h
      obtain ⟨whole, hwhole, h⟩ := exists_of_bind_eq_ok h
      split at h
      · cases h
        exact valid_of_add hwhole
      · split at h
        · cases h
        all_goals
          obtain ⟨_, -, h⟩ := exists_of_bind_eq_ok h
          obtain ⟨_, -, hadd⟩ := exists_of_bind_eq_ok h
          exact valid_of_add hadd
  · cases h

theorem valid_of_scanParts {fuel : Nat} {d sum : Duration} {digit : Nat} {rest : Rest} (hd : d.IsValid)
    (h : scanParts fuel d digit rest = .ok sum) : sum.IsValid := by
  induction fuel generalizing d digit rest with
  | zero =>
    cases h
    exact hd
  | succ fuel ih =>
    obtain ⟨⟨quantity, behindNumber⟩, -, h⟩ := exists_of_bind_eq_ok h
    obtain ⟨⟨spelling, behind⟩, -, h⟩ := exists_of_bind_eq_ok h
    obtain ⟨next, hnext, h⟩ := exists_of_bind_eq_ok h
    have hvalid := valid_of_addQuantity hnext
    cases behind with
    | digit value rest => exact ih hvalid h
    | gap rest =>
      obtain ⟨first, -, h⟩ := exists_of_bind_eq_ok h
      cases first with
      | none =>
        cases h
        exact hvalid
      | some first => exact ih hvalid h

theorem valid_of_parse {text : String} {d : Duration} (h : parse text = .ok d) : d.IsValid := by
  have hzero : IsValid ⟨0, 0⟩ := ⟨by decide, by decide⟩
  unfold parse at h
  split at h
  · cases h
    exact hzero
  · split at h
    · cases h
    · cases h
    · exact valid_of_scanParts hzero h

/-! ### Parts -/

namespace TimeUnit

/-- The spelling with which a count of a unit is written. -/
def spelling (count : Nat) : TimeUnit → String
  | .year => if count = 1 then "year" else "years"
  | .month => if count = 1 then "month" else "months"
  | .day => if count = 1 then "day" else "days"
  | .week => "w"
  | .hour => "h"
  | .minute => "m"
  | .second => "s"
  | .millisecond => "ms"
  | .microsecond => "us"
  | .nanosecond => "ns"

theorem ofSpelling?_spelling (count : Nat) (unit : TimeUnit) : ofSpelling? (unit.spelling count) = some unit := by
  unfold spelling
  split
  all_goals first | rfl | (split <;> rfl)

/-- Letters that spell a unit: none of them ends it. -/
def IsText (spelling : String) : Prop :=
  spelling ≠ "" ∧ ∀ c ∈ spelling.toList, c.isDigit = false ∧ Text.isBlankChar c = false ∧ isUnitChar c = true

instance : DecidablePred IsText := fun _ => @instDecidableAnd _ _ _ (List.decidableBAll _ _)

theorem IsText.toList_ne_nil {spelling : String} (h : IsText spelling) : spelling.toList ≠ [] := by
  intro hempty
  exact h.1 (String.toList_eq_nil_iff.mp hempty)

theorem isText_spelling (count : Nat) (unit : TimeUnit) : IsText (unit.spelling count) := by
  unfold spelling
  split
  all_goals first | decide | (split <;> decide)

/-- The seconds of a unit from the second up. -/
def wholeSeconds (unit : TimeUnit) : Nat := unit.inSeconds.getD 0

/-- The nanoseconds of a unit below the second. -/
def fractionNanos (unit : TimeUnit) : Nat :=
  match unit.inSeconds with
  | some _ => 0
  | none => unit.inNanos.getD 1

end TimeUnit

/-- A count of a unit. -/
structure Part where
  count : Nat
  unit : TimeUnit

namespace Part

def spelling (p : Part) : String := p.unit.spelling p.count

/-- The part as text. -/
def text (p : Part) : String := toString p.count ++ p.spelling

def seconds (p : Part) : Nat := p.count * p.unit.wholeSeconds

def nanos (p : Part) : Nat := p.count * p.unit.fractionNanos

/-- The duration of parts, one added after the other. -/
def sum : List Part → Duration
  | [] => ⟨0, 0⟩
  | p :: rest => ⟨p.seconds + (sum rest).seconds, p.nanos + (sum rest).nanos⟩

@[simp] theorem sum_cons_seconds (p : Part) (parts : List Part) :
    (sum (p :: parts)).seconds = p.seconds + (sum parts).seconds := rfl

@[simp] theorem sum_cons_nanos (p : Part) (parts : List Part) :
    (sum (p :: parts)).nanos = p.nanos + (sum parts).nanos := rfl

/-- Parts that are left out because they count nothing add nothing. -/
theorem sum_filter (parts : List Part) : sum (parts.filter fun p => p.count ≠ 0) = sum parts := by
  induction parts with
  | nil => rfl
  | cons p rest ih =>
    by_cases hp : p.count = 0
    · have hseconds : p.seconds = 0 := by rw [seconds, hp, Nat.zero_mul]
      have hnanos : p.nanos = 0 := by rw [nanos, hp, Nat.zero_mul]
      rw [List.filter_cons_of_neg (by simpa using hp), ih, sum, hseconds, hnanos, Nat.zero_add, Nat.zero_add]
    · rw [List.filter_cons_of_pos (by simpa using hp), sum, sum, ih]

theorem addQuantity_eq (p : Part) {d : Duration} (hseconds : d.seconds + p.seconds < UInt64.size)
    (hnanos : d.nanos + p.nanos < 1_000_000_000) :
    d.addQuantity ⟨p.count, none⟩ p.spelling = .ok ⟨d.seconds + p.seconds, d.nanos + p.nanos⟩ := by
  have hadd := add_of_lt hseconds hnanos
  unfold seconds TimeUnit.wholeSeconds at hseconds hadd
  unfold nanos TimeUnit.fractionNanos at hnanos hadd
  unfold addQuantity spelling seconds nanos TimeUnit.wholeSeconds TimeUnit.fractionNanos
  rw [TimeUnit.ofSpelling?_spelling]
  cases hunit : p.unit.inSeconds with
  | some length =>
    simp only [hunit, Option.getD_some, Nat.mul_zero] at hseconds hadd ⊢
    have hword : word (p.count * length) = .ok (p.count * length) := word_of_lt (by omega)
    simp only [hword, hadd, bind, Except.bind]
  | none =>
    simp only [hunit, Option.getD_none, Nat.mul_zero] at hnanos hadd ⊢
    have hword : word (p.count * p.unit.inNanos.getD 1) = .ok (p.count * p.unit.inNanos.getD 1) :=
      word_of_lt (Nat.lt_trans (Nat.lt_of_le_of_lt (Nat.le_add_left _ _) hnanos) (by decide))
    simp only [hword, hadd, bind, Except.bind]

end Part

/-! ### The parts of a duration -/

/-- All parts of a duration, also those that count nothing. -/
def parts (d : Duration) : List Part :=
  let inYear := d.seconds % 31557600
  let inMonth := inYear % 2630016
  let inDay := inMonth % 86400
  [⟨d.seconds / 31557600, .year⟩, ⟨inYear / 2630016, .month⟩, ⟨inMonth / 86400, .day⟩, ⟨inDay / 3600, .hour⟩,
    ⟨inDay % 3600 / 60, .minute⟩, ⟨inDay % 60, .second⟩, ⟨d.nanos / 1000000, .millisecond⟩,
    ⟨d.nanos / 1000 % 1000, .microsecond⟩, ⟨d.nanos % 1000, .nanosecond⟩]

/-- The parts of a duration add up to it. -/
theorem sum_parts (d : Duration) : Part.sum d.parts = d := by
  obtain ⟨seconds, nanos⟩ := d
  have hlong : TimeUnit.year.wholeSeconds = 31557600 ∧ TimeUnit.month.wholeSeconds = 2630016 ∧
      TimeUnit.day.wholeSeconds = 86400 ∧ TimeUnit.hour.wholeSeconds = 3600 ∧
      TimeUnit.minute.wholeSeconds = 60 ∧ TimeUnit.second.wholeSeconds = 1 ∧
      TimeUnit.millisecond.wholeSeconds = 0 ∧ TimeUnit.microsecond.wholeSeconds = 0 ∧
      TimeUnit.nanosecond.wholeSeconds = 0 := ⟨rfl, rfl, rfl, rfl, rfl, rfl, rfl, rfl, rfl⟩
  have hshort : TimeUnit.year.fractionNanos = 0 ∧ TimeUnit.month.fractionNanos = 0 ∧
      TimeUnit.day.fractionNanos = 0 ∧ TimeUnit.hour.fractionNanos = 0 ∧ TimeUnit.minute.fractionNanos = 0 ∧
      TimeUnit.second.fractionNanos = 0 ∧ TimeUnit.millisecond.fractionNanos = 1000000 ∧
      TimeUnit.microsecond.fractionNanos = 1000 ∧ TimeUnit.nanosecond.fractionNanos = 1 :=
    ⟨rfl, rfl, rfl, rfl, rfl, rfl, rfl, rfl, rfl⟩
  have hseconds : (Part.sum (parts ⟨seconds, nanos⟩)).seconds = seconds := by
    simp only [parts, Part.sum, Part.seconds, hlong]
    omega
  have hnanos : (Part.sum (parts ⟨seconds, nanos⟩)).nanos = nanos := by
    simp only [parts, Part.sum, Part.nanos, hshort]
    omega
  exact congrArg₂ Duration.mk hseconds hnanos

end SearchStore.Duration
