import Mathlib.Algebra.Ring.Nat
import SearchStore.Proofs.Text.Digits
import SearchStore.Time.Reading

/-!
# Numbers in dates and times

A number is written with a width, and zeros in front fill it. Readers that stop at the width, or at a character that
is no digit, read it back (`number_padded`, `number_digits`). On these rest the year (`yearField_yearText`) and the
fraction of a second (`fraction_fractionText`).
-/

namespace SearchStore.Time

open SearchStore.Moment (padded yearText fractionText)

/-! ### Padded numbers -/

theorem isDigit_of_mem_padded {width n : Nat} {c : Char} (h : c ∈ padded width n) : c.isDigit = true := by
  rcases List.mem_append.mp h with hzero | hdigit
  · obtain rfl := List.eq_of_mem_replicate hzero
    decide
  · exact Text.isDigit_of_mem_toDigits hdigit

theorem valueOf_padded (width n : Nat) : valueOf (padded width n) = n := by
  have hvalue : valueOf (padded width n) = Nat.ofDigitChars 10 (padded width n) 0 := Text.foldl_digits_eq _ 0
  rw [hvalue]
  simp only [padded, Nat.ofDigitChars_append, Nat.ofDigitChars_replicate_zero, Nat.mul_zero,
    Nat.ofDigitChars_ten_toDigits]

theorem length_padded_ge (width n : Nat) : width ≤ (padded width n).length := by
  simp only [padded, List.length_append, List.length_replicate]
  omega

theorem length_padded {width n : Nat} (hwidth : 0 < width) (hn : n < 10 ^ width) :
    (padded width n).length = width := by
  have hdigits := (Nat.length_toDigits_le_iff (by decide) hwidth).mpr hn
  simp only [padded, List.length_append, List.length_replicate]
  omega

theorem padded_ne_nil (width n : Nat) : padded width n ≠ [] := by
  intro h
  exact Nat.toDigits_ne_nil (List.append_eq_nil_iff.mp h).2

theorem trimLeft_padded (width n : Nat) (rest : List Char) :
    Text.trimLeft (padded width n ++ rest) = padded width n ++ rest :=
  Text.trimLeft_of_isDigit (fun _ => isDigit_of_mem_padded) (padded_ne_nil width n) rest

/-! ### Readers of numbers -/

/-- A text that ends a number: no digit stands in front. -/
def EndsNumber (rest : List Char) : Prop := ∀ c ∈ rest.head?, c.isDigit = false

theorem EndsNumber.takeWhile {rest : List Char} (h : EndsNumber rest) : rest.takeWhile Char.isDigit = [] := by
  cases rest with
  | nil => rfl
  | cons c rest => exact List.takeWhile_cons_of_neg (by simpa using h c rfl)

theorem EndsNumber.dropWhile {rest : List Char} (h : EndsNumber rest) : rest.dropWhile Char.isDigit = rest := by
  cases rest with
  | nil => rfl
  | cons c rest => exact List.dropWhile_cons_of_neg (by simpa using h c rfl)

theorem EndsNumber.take {rest : List Char} (h : EndsNumber rest) (width : Nat) : EndsNumber (rest.take width) := by
  intro c hc
  cases rest with
  | nil => simp at hc
  | cons d rest =>
    cases width with
    | zero => simp at hc
    | succ width => exact h c hc

theorem takeWhile_padded (width n : Nat) {rest : List Char} (hrest : EndsNumber rest) :
    (padded width n ++ rest).takeWhile Char.isDigit = padded width n := by
  rw [List.takeWhile_append_of_pos fun _ => isDigit_of_mem_padded, hrest.takeWhile, List.append_nil]

theorem number_of_takeWhile {least : Nat} {most : Option Nat} {digits rest : List Char}
    (hwindow : ((most.map (digits ++ rest).take).getD (digits ++ rest)).takeWhile Char.isDigit = digits)
    (hleast : least ≤ digits.length) : number least most (digits ++ rest) = .ok (valueOf digits, rest) := by
  have hlength : ¬ (digits ++ rest).length < least := by
    rw [List.length_append]
    omega
  unfold number
  simp only [hwindow]
  rw [if_neg hlength, if_neg (by omega), List.drop_left]

theorem number_padded {least width n : Nat} (hwidth : 0 < width) (hn : n < 10 ^ width) (hleast : least ≤ width)
    (rest : List Char) : number least (some width) (padded width n ++ rest) = .ok (n, rest) := by
  have hlength := length_padded hwidth hn
  have hwindow : ((padded width n ++ rest).take width).takeWhile Char.isDigit = padded width n := by
    rw [List.take_left' hlength]
    have hnothing : EndsNumber [] := by simp [EndsNumber]
    simpa using takeWhile_padded width n hnothing
  have hread : number least (some width) (padded width n ++ rest) = .ok (valueOf (padded width n), rest) :=
    number_of_takeWhile hwindow (by omega)
  rw [hread, valueOf_padded]

/-- Digits are read up to a character that is none, if not too many are there. -/
theorem number_digits {least width n : Nat} {most : Option Nat} (hmost : ∀ m ∈ most, (padded width n).length ≤ m)
    (hleast : least ≤ width) {rest : List Char} (hrest : EndsNumber rest) :
    number least most (padded width n ++ rest) = .ok (n, rest) := by
  have hlength := length_padded_ge width n
  have hwindow : ((most.map (padded width n ++ rest).take).getD (padded width n ++ rest)).takeWhile Char.isDigit =
      padded width n := by
    cases most with
    | none => exact takeWhile_padded width n hrest
    | some m =>
      have hm := hmost m rfl
      rw [Option.map_some, Option.getD_some, List.take_append, List.take_of_length_le hm]
      exact takeWhile_padded width n (hrest.take _)
  rw [number_of_takeWhile hwindow (by omega), valueOf_padded]

/-! ### Fields -/

theorem field_padded {n : Nat} (hn : n < 100) (rest : List Char) :
    field 2 (padded 2 n ++ rest) = .ok (n, rest) := by
  rw [field, trimLeft_padded]
  exact number_padded (by decide) hn (by decide) rest

theorem within_field_padded {low high n : Nat} (hhigh : high < 100) (h : low ≤ n ∧ n ≤ high) (rest : List Char) :
    within low high (field 2) (padded 2 n ++ rest) = .ok (n, rest) := by
  have hread := field_padded (n := n) (by omega) rest
  simp [within, hread, h, bind, Except.bind]

theorem literal_cons (c : Char) (rest : List Char) : literal c (c :: rest) = .ok ((), rest) := if_pos rfl

/-! ### Years -/

theorem yearInRange_of_bounds {year : Int} (hyear : -262143 ≤ year ∧ year ≤ 262142) (cs : List Char) :
    yearInRange year cs = .ok (year, cs) := if_pos (by omega)

theorem trimLeft_sign {sign : Char} (h : sign ∈ ['+', '-']) (cs : List Char) :
    Text.trimLeft (sign :: cs) = sign :: cs := by
  have hvisible : ∀ c ∈ ['+', '-'], Text.isBlankChar c = false := by
    rw [List.forall_mem_cons, List.forall_mem_singleton]
    decide
  exact List.dropWhile_cons_of_neg (by simp [hvisible sign h])

/-- A year without a sign is read from at most four digits. -/
theorem yearField_of_isDigit {c : Char} (hc : c.isDigit = true) {cs rest : List Char} {n : Nat}
    (hread : number 1 (some 4) (c :: cs) = .ok (n, rest)) : yearField (c :: cs) = yearInRange n rest := by
  have htrim : Text.trimLeft (c :: cs) = c :: cs :=
    List.dropWhile_cons_of_neg (by simp [Text.isBlankChar_of_isDigit hc])
  rw [yearField, htrim]
  -- A digit is no sign, so the last case of the reader applies.
  split
  · rename_i hminus
    cases hminus
    exact absurd hc (by decide)
  · rename_i hplus
    cases hplus
    exact absurd hc (by decide)
  · simp only [hread, bind, Except.bind]

theorem yearField_yearText {year : Int} (hyear : -262143 ≤ year ∧ year ≤ 262142) {rest : List Char}
    (hrest : EndsNumber rest) : yearField (yearText year ++ rest) = .ok (year, rest) := by
  cases year with
  | ofNat n =>
    rw [Int.ofNat_eq_natCast] at hyear
    rw [yearText]
    by_cases hn : n ≤ 9999
    · have hread : number 1 (some 4) (padded 4 n ++ rest) = .ok (n, rest) :=
        number_padded (by decide) (by omega) (by decide) rest
      obtain ⟨c, digits, hdigits⟩ := List.exists_cons_of_ne_nil (padded_ne_nil 4 n)
      have hc : c.isDigit = true := isDigit_of_mem_padded (hdigits ▸ List.mem_cons_self)
      rw [hdigits, List.cons_append] at hread
      rw [if_pos hn, hdigits, List.cons_append, yearField_of_isDigit hc hread]
      exact yearInRange_of_bounds hyear rest
    · have hread : number 1 none (padded 4 n ++ rest) = .ok (n, rest) :=
        number_digits (by simp) (by decide) hrest
      rw [if_neg hn, List.cons_append, yearField, trimLeft_sign (by simp)]
      simp only [hread, bind, Except.bind]
      exact yearInRange_of_bounds hyear rest
  | negSucc n =>
    have hread : number 1 none (padded 4 (n + 1) ++ rest) = .ok (n + 1, rest) :=
      number_digits (by simp) (by decide) hrest
    rw [yearText, List.cons_append, yearField, trimLeft_sign (by simp)]
    simp only [hread, bind, Except.bind]
    exact yearInRange_of_bounds hyear rest

/-! ### Fractions -/

/-- Digits behind a point are the fraction that they fill up to nine digits. -/
theorem fraction_padded {width n : Nat} (hwidth : 0 < width) (hnine : width ≤ 9) (hn : n < 10 ^ width)
    {rest : List Char} (hrest : EndsNumber rest) :
    fraction ('.' :: padded width n ++ rest) = .ok (n * Nat.pow 10 (9 - width), rest) := by
  have hlength := length_padded hwidth hn
  have hread : number 1 (some 9) (padded width n ++ rest) = .ok (n, rest) :=
    number_digits (by simpa [hlength] using hnine) hwidth hrest
  rw [List.cons_append, fraction, hread]
  simp [bind, Except.bind, hlength, hrest.dropWhile]

theorem fraction_fractionText {nanos : Nat} (hnanos : nanos < 1_000_000_000) {rest : List Char}
    (hrest : EndsNumber rest) (hpoint : rest.head? ≠ some '.') :
    fraction (fractionText nanos ++ rest) = .ok (nanos, rest) := by
  unfold fractionText
  split
  · rename_i hzero
    rw [List.nil_append, hzero]
    unfold fraction
    split
    · exact absurd rfl hpoint
    · rfl
  · split
    · rw [fraction_padded (by decide) (by decide) (by omega) hrest]
      have hexact : nanos / 1_000_000 * Nat.pow 10 (9 - 3) = nanos := by
        show nanos / 1_000_000 * 1_000_000 = nanos
        omega
      rw [hexact]
    · split
      · rw [fraction_padded (by decide) (by decide) (by omega) hrest]
        have hexact : nanos / 1_000 * Nat.pow 10 (9 - 6) = nanos := by
          show nanos / 1_000 * 1_000 = nanos
          omega
        rw [hexact]
      · rw [fraction_padded (by decide) (by decide) (by omega) hrest]
        simp

end SearchStore.Time
