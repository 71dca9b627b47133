import SearchStore.Proofs.Time.RoundTrip

/-!
# Whole seconds that are written and read again

A moment is written with whole seconds and an offset in numbers. In the years from `0` to `9999` the text is in the
strict notation and names the moment without its fraction (`rfc3339?_text`). The year of any other moment has a sign in
front; the strict notation has none, and the offset keeps the other readers away, so the text is no date at all
(`rfc3339?_of_sign`, `dateTime?_text`, `date?_text`).
-/

namespace SearchStore

namespace Moment

/-- The moment without the fraction of its second. -/
def truncated (m : Moment) : Moment :=
  { m with
    nano := m.nano - m.fraction
    nano_lt := Nat.lt_of_le_of_lt (Nat.sub_le _ _) m.nano_lt }

/-- The offset of UTC in numbers. -/
def zeroOffset : List Char := ['+', '0', '0', ':', '0', '0']

theorem toList_offsetText (m : Moment) : m.offsetText.toList = m.secondsText ++ zeroOffset := String.toList_ofList

theorem fraction_truncated (m : Moment) : m.truncated.fraction = 0 := by
  have hnano := m.nano_lt
  simp only [truncated, fraction]
  omega

theorem inLeapSecond_truncated (m : Moment) : m.truncated.inLeapSecond = m.inLeapSecond := by
  have hnano := m.nano_lt
  rw [inLeapSecond, inLeapSecond, decide_eq_decide]
  simp only [truncated, fraction]
  omega

theorem secondOfMinute_truncated (m : Moment) : m.truncated.secondOfMinute = m.secondOfMinute := by
  rw [secondOfMinute, inLeapSecond_truncated, secondOfMinute]
  rfl

theorem secondsText_truncated (m : Moment) : m.truncated.secondsText = m.secondsText := by
  rw [secondsText, secondOfMinute_truncated, secondsText]
  rfl

theorem secondsText_settled (m : Moment) : m.settled.secondsText = m.secondsText := by
  unfold settled
  split
  · rename_i h
    obtain ⟨hleap, hlast⟩ := h
    have hnano : 1_000_000_000 ≤ m.nano := by simpa [inLeapSecond] using hleap
    have hbound := m.nano_lt
    have hplain : decide (1_000_000_000 ≤ m.nano - 1_000_000_000) = false := by
      rw [decide_eq_false_iff_not]
      omega
    have hhour : (m.second + 1) / 3600 = m.second / 3600 := by omega
    have hminute : (m.second + 1) % 3600 / 60 = m.second % 3600 / 60 := by omega
    have hsecond : (m.second + 1) % 60 = m.second % 60 + 1 := by omega
    simp only [secondsText, hour, minute, secondOfMinute, hleap, if_true, hhour, hminute, hsecond]
    simp only [inLeapSecond, hplain, Bool.false_eq_true, if_false, Nat.add_zero]
  · rfl

end Moment

namespace Time

open SearchStore.Moment (padded yearText zeroOffset)

/-! ### The strict notation -/

theorem number_two {n : Nat} (hn : n < 100) (rest : List Char) :
    number 2 (some 2) (padded 2 n ++ rest) = .ok (n, rest) :=
  number_padded (by decide) hn (by decide) rest

theorem within_number_two {low high n : Nat} (hhigh : high < 100) (h : low ≤ n ∧ n ≤ high) (rest : List Char) :
    within low high (number 2 (some 2)) (padded 2 n ++ rest) = .ok (n, rest) := by
  simp [within, number_two (n := n) (by omega) rest, h, bind, Except.bind]

theorem exists_padded_year {year : Int} (hyear : 0 ≤ year ∧ year ≤ 9999) :
    ∃ n : Nat, (n : Int) = year ∧ n < 10 ^ 4 ∧ yearText year = padded 4 n := by
  obtain ⟨n, rfl⟩ := Int.eq_ofNat_of_zero_le hyear.1
  have hn : n ≤ 9999 := by omega
  exact ⟨n, rfl, by omega, if_pos hn⟩

theorem strictFields_text {m : Moment} (hyear : 0 ≤ m.date.year ∧ m.date.year ≤ 9999) :
    strictFields (m.secondsText ++ zeroOffset) = .ok (Fields.ofMoment m.truncated, []) := by
  obtain ⟨year, hvalue, hdigits, htext⟩ := exists_padded_year hyear
  obtain ⟨hmonth, hday⟩ := m.date.bounds
  obtain ⟨hhour, hminute, hsecond⟩ := m.clock_bounds
  have hreadYear : ∀ rest, number 4 (some 4) (padded 4 year ++ rest) = .ok (year, rest) :=
    number_padded (by decide) hdigits (by decide)
  have hreadMonth := within_number_two (by decide) hmonth
  have hreadDay := within_number_two (by decide) hday
  have hseparator : ∀ rest, strictFields.strictSeparator ('T' :: rest) = .ok ((), rest) := fun rest => rfl
  have hreadHour := within_number_two (by decide) hhour
  have hreadMinute := within_number_two (by decide) hminute
  have hreadSecond := within_number_two (by decide) hsecond
  have hreadFraction : fraction zeroOffset = .ok (0, zeroOffset) := rfl
  have hreadOffset : offset (literal ':') zeroOffset = .ok (0, []) := rfl
  rw [secondsText_append, htext]
  simp only [strictFields, hreadYear, hreadMonth, hreadDay, hseparator, hreadHour, hreadMinute, hreadSecond,
    hreadFraction, hreadOffset, literal_cons, bind, Except.bind]
  rw [if_pos (by decide), hvalue, Fields.ofMoment, Moment.fraction_truncated, Moment.secondOfMinute_truncated]
  rfl

/-- A moment of a year with four digits is read back without its fraction, as clocks show it. -/
theorem rfc3339?_text {m : Moment} (hyear : 0 ≤ m.date.year ∧ m.date.year ≤ 9999) :
    rfc3339? (m.secondsText ++ zeroOffset) = some m.truncated.settled := by
  have hwhole : whole strictFields (m.secondsText ++ zeroOffset) = .ok (Fields.ofMoment m.truncated) := by
    rw [whole, strictFields_text hyear]
    rfl
  have hresolve := Fields.resolve_ofMoment m.truncated
  simp only [rfc3339?, hwhole, bind, Except.bind, hresolve]
  rfl

/-! ### Other years -/

/-- Years before 0 and behind 9999 are written with a sign. -/
theorem exists_sign_year {year : Int} (hyear : ¬ (0 ≤ year ∧ year ≤ 9999)) :
    ∃ sign n, sign ∈ ['+', '-'] ∧ yearText year = sign :: padded 4 n := by
  cases year with
  | ofNat n =>
    have hn : ¬ n ≤ 9999 := by
      rw [Int.ofNat_eq_natCast] at hyear
      omega
    exact ⟨'+', n, by simp, if_neg hn⟩
  | negSucc n => exact ⟨'-', n + 1, by simp, rfl⟩

theorem rfc3339?_of_sign {sign : Char} (hsign : sign ∈ ['+', '-']) (rest : List Char) :
    rfc3339? (sign :: rest) = none := by
  have hdigit : sign.isDigit = false := by
    obtain rfl | rfl : sign = '+' ∨ sign = '-' := by simpa using hsign
    · rfl
    · rfl
  have hread : ∃ fault, number 4 (some 4) (sign :: rest) = .error fault := by
    have hwindow : ((sign :: rest).take 4).takeWhile Char.isDigit = [] :=
      List.takeWhile_cons_of_neg (by simp [hdigit])
    simp only [number, Option.map_some, Option.getD_some, hwindow, List.length_nil]
    split
    · exact ⟨.tooShort, rfl⟩
    · exact ⟨.invalid, rfl⟩
  obtain ⟨fault, hread⟩ := hread
  have hwhole : whole strictFields (sign :: rest) = .error fault := by
    simp only [whole, strictFields, hread, bind, Except.bind]
  simp only [rfc3339?, hwhole, bind, Except.bind]
  rfl

/-- A text with something behind what a reader takes is not read as a whole. -/
theorem whole_of_rest {α : Type} {read : Reading α} {text rest : List Char} {value : α}
    (h : read text = .ok (value, rest)) (hne : rest ≠ []) : whole read text = .error .tooLong := by
  simp only [whole, h, bind, Except.bind, List.isEmpty_iff, hne, if_false]

theorem date?_text (m : Moment) : date? (m.secondsText ++ zeroOffset) = none := by
  have hdash : ∀ rest : List Char, id ('-' :: rest) = '-' :: rest := fun _ => rfl
  have hread := dateFields_text hdash m.date
    ('T' :: (padded 2 m.hour ++ ':' :: (padded 2 m.minute ++ ':' :: (padded 2 m.secondOfMinute ++ zeroOffset))))
  rw [← secondsText_append] at hread
  simp only [date?, whole_of_rest hread (List.cons_ne_nil _ _), bind, Except.bind]
  rfl

theorem field_letter (rest : List Char) : field 2 (Text.trimLeft ('T' :: rest)) = .error .invalid := by
  have htrim : Text.trimLeft ('T' :: rest) = 'T' :: rest := rfl
  rw [htrim, field, htrim]
  simp [number]

/-- The offset stands behind what is read of a date and a time, and blank space does not stand between them. -/
theorem dateTime?_text (m : Moment) : dateTime? (m.secondsText ++ zeroOffset) = none := by
  have hdash : ∀ rest : List Char, id ('-' :: rest) = '-' :: rest := fun _ => rfl
  have hcolon : ∀ rest : List Char, id (':' :: rest) = ':' :: rest := fun _ => rfl
  have hreadDate := dateFields_text hdash m.date
    ('T' :: (padded 2 m.hour ++ ':' :: (padded 2 m.minute ++ ':' :: (padded 2 m.secondOfMinute ++ zeroOffset))))
  have hreadClock := clockFields_text hcolon m zeroOffset
  have hletter : whole (dateTimeFields (literal 'T')) (m.secondsText ++ zeroOffset) = .error .tooLong := by
    apply whole_of_rest
    · rw [secondsText_append]
      simp only [dateTimeFields, hreadDate, literal_cons, hreadClock, bind, Except.bind]
      rfl
    · exact List.cons_ne_nil _ _
  have hblank : whole (dateTimeFields blanks) (m.secondsText ++ zeroOffset) = .error .invalid := by
    rw [secondsText_append]
    simp only [whole, dateTimeFields, hreadDate, blanks, clockFields, within, field_letter, bind, Except.bind]
  simp only [dateTime?, hletter, hblank, bind, Except.bind]
  rfl

end Time

end SearchStore
