import Mathlib.Data.Bool.AllAny
import SearchStore.Proofs.Filter.Bounds
import SearchStore.Proofs.Text.Literal
import SearchStore.Proofs.Time.Strict

/-!
# Dates that are written as bounds

A bound that is a date is written in UTC with whole seconds. What is written is no number and has no blank characters,
so the readers of dates see all of it: in a year of four digits it is the same date up to the fraction of its second
(`moment?_offsetText`), and in any other year it is no date (`moment?_offsetText_of_sign`). Either way it is written as
it is, so bounds are settled once and for all (`bounds_settle`).
-/

namespace SearchStore

open Clause (moment? dateText? dateFormat boundValue?)
open Moment (padded yearText zeroOffset)

/-! ### The characters of a date -/

/-- The characters of dates that are no digits. -/
def dateSigns : List Char := ['+', '-', 'T', ':']

theorem mem_yearText {year : Int} {c : Char} (h : c ∈ yearText year) : c.isDigit = true ∨ c ∈ dateSigns := by
  cases year with
  | ofNat n =>
    rw [yearText] at h
    split at h
    · exact .inl (Time.isDigit_of_mem_padded h)
    · obtain rfl | hdigit := List.mem_cons.mp h
      · exact .inr (by decide)
      · exact .inl (Time.isDigit_of_mem_padded hdigit)
  | negSucc n =>
    obtain rfl | hdigit := List.mem_cons.mp h
    · exact .inr (by decide)
    · exact .inl (Time.isDigit_of_mem_padded hdigit)

theorem mem_offsetText {m : Moment} {c : Char} (h : c ∈ m.offsetText.toList) : c.isDigit = true ∨ c ∈ dateSigns := by
  have hpadded : ∀ n, c ∈ padded 2 n → c.isDigit = true := fun n => Time.isDigit_of_mem_padded
  have hoffset : ∀ c ∈ zeroOffset, c.isDigit = true ∨ c ∈ dateSigns := List.all_iff_forall_prop.mp (by decide)
  have hsign : c ∈ ['-', 'T', ':'] → c ∈ dateSigns := fun hc => List.mem_cons_of_mem '+' hc
  rw [m.toList_offsetText, Time.secondsText_append] at h
  simp only [List.mem_append, List.mem_cons] at h
  obtain hyear | hother := h
  · exact mem_yearText hyear
  · by_cases hzero : c ∈ zeroOffset
    · exact hoffset c hzero
    · simp only [hzero, or_false] at hother
      grind

theorem trim_offsetText (m : Moment) : Text.trim m.offsetText = m.offsetText := by
  have hsigns : ∀ c ∈ dateSigns, Text.isBlankChar c = false := List.all_iff_forall_prop.mp (by decide)
  apply Text.trim_of_visible
  intro c hc
  obtain hdigit | hsign := mem_offsetText hc
  · exact Text.isBlankChar_of_isDigit hdigit
  · exact hsigns c hsign

theorem exists_dropSign_yearText (year : Int) (rest : List Char) :
    ∃ digits, (∀ c ∈ digits, c.isDigit = true) ∧ Decimal.dropSign (yearText year ++ rest) = digits ++ rest := by
  by_cases hyear : 0 ≤ year ∧ year ≤ 9999
  · obtain ⟨n, -, -, htext⟩ := Time.exists_padded_year hyear
    obtain ⟨c, digits, hdigits⟩ := List.exists_cons_of_ne_nil (Time.padded_ne_nil 4 n)
    have hc : c.isDigit = true := Time.isDigit_of_mem_padded (hdigits ▸ List.mem_cons_self)
    refine ⟨padded 4 n, fun _ => Time.isDigit_of_mem_padded, ?_⟩
    rw [htext, hdigits, List.cons_append, Decimal.dropSign]
    · intro rest heq
      obtain ⟨rfl, -⟩ := List.cons.inj heq
      exact absurd hc (by decide)
    · intro rest heq
      obtain ⟨rfl, -⟩ := List.cons.inj heq
      exact absurd hc (by decide)
  · obtain ⟨sign, n, hsign, htext⟩ := Time.exists_sign_year hyear
    refine ⟨padded 4 n, fun _ => Time.isDigit_of_mem_padded, ?_⟩
    rw [htext, List.cons_append]
    obtain rfl | rfl : sign = '+' ∨ sign = '-' := by simpa using hsign
    · rfl
    · rfl

theorem isNumber_offsetText (m : Moment) : Decimal.isNumber m.offsetText.toList = false := by
  rw [m.toList_offsetText, Time.secondsText_append]
  obtain ⟨digits, hdigits, hdrop⟩ := exists_dropSign_yearText m.date.year _
  exact Decimal.isNumber_hyphen hdrop hdigits

/-! ### Reading what is written -/

/-- A text that is a date is neither blank nor a number, and what it names is read by one of three readers. -/
theorem moment?_offsetText_eq (m : Moment) : moment? m.offsetText = Time.rfc3339? (m.secondsText ++ zeroOffset) := by
  have hne : (m.secondsText ++ zeroOffset).isEmpty = false := by simp [zeroOffset]
  have hnumber := isNumber_offsetText m
  rw [m.toList_offsetText] at hnumber
  simp only [moment?, trim_offsetText, m.toList_offsetText, hne, hnumber, Bool.or_self, Bool.false_eq_true, if_false,
    Time.dateTime?_text, Time.date?_text]
  cases Time.rfc3339? (m.secondsText ++ zeroOffset) <;> rfl

theorem moment?_offsetText {m : Moment} (hyear : 0 ≤ m.date.year ∧ m.date.year ≤ 9999) :
    moment? m.offsetText = some m.truncated.settled := by
  rw [moment?_offsetText_eq, Time.rfc3339?_text hyear]

theorem moment?_offsetText_of_sign {m : Moment} (hyear : ¬ (0 ≤ m.date.year ∧ m.date.year ≤ 9999)) :
    moment? m.offsetText = none := by
  obtain ⟨sign, n, hsign, htext⟩ := Time.exists_sign_year hyear
  rw [moment?_offsetText_eq, Time.secondsText_append, htext]
  exact Time.rfc3339?_of_sign hsign _

/-! ### Settled bounds -/

theorem settledBound_of_moment? {text : String} {m : Moment} (h : moment? text = some m) :
    settledBound (.string text) = .string m.offsetText := by
  simp [settledBound, dateText?, Json.asString?, h]

theorem settledBound_of_none {text : String} (h : moment? text = none) :
    settledBound (.string text) = .string text := by
  simp [settledBound, dateText?, Json.asString?, h]

theorem settledBound_of_not_string {value : Json} (h : value.asString? = none) : settledBound value = value := by
  simp [settledBound, dateText?, h]

theorem isDated_string_iff {text : String} : IsDated (.string text) ↔ ∃ m, moment? text = some m := by
  simp [IsDated, dateText?, Json.asString?, Option.isSome_iff_exists]

theorem moment?_of_isBlank {text : String} (h : Text.isBlank text = true) : moment? text = none := by
  have hnothing : Text.trimLeft text.toList = [] := by
    rw [Text.trimLeft, List.dropWhile_eq_nil_iff]
    simpa [Text.isBlank] using h
  simp [moment?, Text.trim, hnothing, Text.trimRight]

theorem moment?_of_isNumber {text : String} (h : Decimal.isNumber (Text.trim text).toList = true) :
    moment? text = none := by
  simp [moment?, h]

theorem settledBound_offsetText (m : Moment) : settledBound (.string m.offsetText) = .string m.offsetText := by
  by_cases hyear : 0 ≤ m.date.year ∧ m.date.year ≤ 9999
  · rw [settledBound_of_moment? (moment?_offsetText hyear), Moment.offsetText, Moment.secondsText_settled,
      Moment.secondsText_truncated, Moment.offsetText]
  · exact settledBound_of_none (moment?_offsetText_of_sign hyear)

theorem settledBound_settledBound (value : Json) : settledBound (settledBound value) = settledBound value := by
  cases hstring : value.asString? with
  | none => rw [settledBound_of_not_string hstring, settledBound_of_not_string hstring]
  | some text =>
    obtain rfl : value = .string text := by
      cases value <;> simp_all [Json.asString?]
    cases hmoment : moment? text with
    | none => rw [settledBound_of_none hmoment, settledBound_of_none hmoment]
    | some m => rw [settledBound_of_moment? hmoment, settledBound_offsetText]

theorem get?_limits_scalar (front : List Comparison) (operator : Comparator) (value : Json) :
    Assoc.get? operator.name (limits (front ++ [.scalar operator value])) = some (settledBound value) := by
  rw [limits_concat, get?_addBound rfl]
  exact if_pos rfl

theorem get?_limits_format_of_isDated (front : List Comparison) (operator : Comparator) {value : Json}
    (h : IsDated value) :
    Assoc.get? "format" (limits (front ++ [.scalar operator value])) = some (.string dateFormat) := by
  rw [get?_limits_format, if_pos]
  exact hasDate_append_iff.mpr (.inr ⟨_, List.mem_singleton_self _, value, rfl, h⟩)

/-- **Settled bounds.** The bound of a comparator is the settled value of its comparand. Settling it again changes
nothing. Values that are no texts, blank texts and numbers are settled as they are, and the settled text of a date in a
year of four digits is a date again: the same instant in whole seconds, so that its format is set beside it. -/
theorem bounds_settle (value : Json) :
    (∀ front operator, Assoc.get? operator.name (limits (front ++ [.scalar operator value])) =
      some (settledBound value)) ∧
    settledBound (settledBound value) = settledBound value ∧
    (value.asString? = none → settledBound value = value) ∧
    (∀ text, value = .string text →
      Text.isBlank text = true ∨ Decimal.isNumber text.toList = true ∨ Decimal.isNumber (Text.trim text).toList = true →
      settledBound value = value) ∧
    ∀ text m, value = .string text → moment? text = some m → 0 ≤ m.date.year ∧ m.date.year ≤ 9999 →
      ∃ written n, settledBound value = .string written ∧ moment? written = some n ∧ n.SameInstant m.truncated ∧
        ∀ front operator, Assoc.get? "format" (limits (front ++ [.scalar operator (settledBound value)])) =
          some (.string dateFormat) := by
  refine ⟨fun front operator => get?_limits_scalar front operator value, settledBound_settledBound value,
    settledBound_of_not_string, ?_, ?_⟩
  · rintro text rfl hplain
    apply settledBound_of_none
    obtain hblank | hnumber | htrimmed := hplain
    · exact moment?_of_isBlank hblank
    · rw [← Decimal.trim_of_isNumber hnumber] at hnumber
      exact moment?_of_isNumber hnumber
    · exact moment?_of_isNumber htrimmed
  · rintro text m rfl hmoment hyear
    have hsettled := settledBound_of_moment? hmoment
    have hwritten := moment?_offsetText hyear
    refine ⟨m.offsetText, m.truncated.settled, hsettled, hwritten, m.truncated.sameInstant_settled, ?_⟩
    intro front operator
    rw [hsettled]
    exact get?_limits_format_of_isDated front operator (isDated_string_iff.mpr ⟨_, hwritten⟩)

/-- Half a second into a leap second, an hour east of UTC. -/
theorem bounds_settle_leapSecond :
    let text := "2017-01-01T00:59:60.5+01:00"
    settledBound (.string text) = .string "2016-12-31T23:59:60+00:00" ∧
    (∃ n, moment? "2016-12-31T23:59:60+00:00" = some n) ∧
    settledBound (.natural 2016) = .natural 2016 ∧ settledBound (.string " 2016 ") = .string " 2016 " := by
  have hsettled : settledBound (.string "2017-01-01T00:59:60.5+01:00") = .string "2016-12-31T23:59:60+00:00" := by
    decide +kernel
  obtain ⟨m, hm, hyear⟩ : ∃ m, moment? "2017-01-01T00:59:60.5+01:00" = some m ∧
      0 ≤ m.date.year ∧ m.date.year ≤ 9999 := by
    refine ⟨_, Option.some_get (by decide +kernel) |>.symm, ?_⟩
    decide +kernel
  obtain ⟨written, n, htext, hn, -, -⟩ := (bounds_settle (.string _)).2.2.2.2 _ m rfl hm hyear
  refine ⟨hsettled, ⟨n, ?_⟩, (bounds_settle (.natural 2016)).2.2.1 rfl, ?_⟩
  · obtain rfl := Json.string.inj (htext.symm.trans hsettled)
    exact hn
  · exact (bounds_settle (.string " 2016 ")).2.2.2.1 _ rfl (.inr (.inr (by decide +kernel)))

end SearchStore
