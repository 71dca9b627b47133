import SearchStore.Proofs.Time.Numbers

/-!
# Moments that are written and read again

A moment that is written with all its digits is read back in the relaxed notation (`relaxed_zuluText`), in every year
of the calendar and to the nanosecond. What is read is the moment as clocks show it (`Moment.settled`): a leap second
can only be told from the next second at the end of a minute, where clocks show second 60. It is the same instant in
any case (`Moment.sameInstant_settled`), and the same moment if leap seconds stand where they can be
(`Moment.IsProper`).
-/

namespace SearchStore

/-! ### Moments as clocks show them -/

theorem Date.bounds (d : Date) : (1 ≤ d.month ∧ d.month ≤ 12) ∧ 1 ≤ d.day ∧ d.day ≤ 31 := by
  obtain ⟨-, -, hfirst, hlast⟩ := d.holds
  unfold Calendar.daysInMonth at hlast
  split at hlast
  · rename_i hmonth
    split at hlast <;> omega
  · split at hlast
    · rename_i hmonth
      simp only [List.mem_cons, List.not_mem_nil, or_false] at hmonth
      omega
    · split at hlast <;> omega

namespace Moment

/-- Leap seconds stand at the end of a minute only. -/
def IsProper (m : Moment) : Prop := m.inLeapSecond = true → m.second % 60 = 59

/-- Two moments are the same number of nanoseconds into the same day. -/
def SameInstant (m n : Moment) : Prop :=
  m.date = n.date ∧ m.second * 1_000_000_000 + m.nano = n.second * 1_000_000_000 + n.nano

/-- The moment as clocks show it: a leap second within a minute is the second after it. -/
def settled (m : Moment) : Moment :=
  if h : m.inLeapSecond = true ∧ m.second % 60 ≠ 59 then
    { date := m.date
      second := m.second + 1
      nano := m.nano - 1_000_000_000
      second_lt := by
        have hsecond := m.second_lt
        omega
      nano_lt := by
        have hnano := m.nano_lt
        omega }
  else m

theorem settled_of_isProper {m : Moment} (h : m.IsProper) : m.settled = m :=
  dif_neg fun hleap => hleap.2 (h hleap.1)

theorem sameInstant_settled (m : Moment) : m.settled.SameInstant m := by
  unfold settled
  split
  · rename_i h
    have hnano : 1_000_000_000 ≤ m.nano := by simpa [inLeapSecond] using h.1
    refine ⟨rfl, ?_⟩
    simp only
    omega
  · exact ⟨rfl, rfl⟩

theorem at?_self (m : Moment) : at? m.date m.second m.nano = some m := dif_pos ⟨m.second_lt, m.nano_lt⟩

theorem withoutOffset?_zero (m : Moment) : m.withoutOffset? 0 = some m := by
  have hsecond := m.second_lt
  unfold withoutOffset?
  simp only [Int.sub_zero]
  rw [if_neg (by omega), if_pos (by omega), Int.toNat_natCast]
  exact m.at?_self

theorem clock_bounds (m : Moment) :
    (0 ≤ m.hour ∧ m.hour ≤ 23) ∧ (0 ≤ m.minute ∧ m.minute ≤ 59) ∧ 0 ≤ m.secondOfMinute ∧ m.secondOfMinute ≤ 60 := by
  have hsecond := m.second_lt
  unfold hour minute secondOfMinute
  split <;> omega

theorem ofClock?_self (m : Moment) :
    ofClock? m.date m.hour m.minute m.secondOfMinute m.fraction = some m.settled := by
  have hsecond := m.second_lt
  have hnano := m.nano_lt
  have hday : m.second / 3600 * 3600 + m.second % 3600 / 60 * 60 + m.second % 60 = m.second := by omega
  unfold ofClock? hour minute secondOfMinute fraction
  cases hleap : m.inLeapSecond with
  | false =>
    have hwithin : m.nano < 1_000_000_000 := by simpa [inLeapSecond] using hleap
    have hsettled : m.settled = m := settled_of_isProper fun h => absurd (hleap ▸ h) (by decide)
    simp only [Bool.false_eq_true, if_false, Nat.add_zero]
    rw [if_pos (by omega), if_neg (by omega), hday, Nat.mod_eq_of_lt hwithin, hsettled, at?_self]
  | true =>
    have hbeyond : 1_000_000_000 ≤ m.nano := by simpa [inLeapSecond] using hleap
    have hfraction : m.nano % 1_000_000_000 = m.nano - 1_000_000_000 := by omega
    simp only [if_true]
    rw [if_pos (by omega), hfraction]
    by_cases hlast : m.second % 60 = 59
    · have hsettled : m.settled = m := settled_of_isProper fun _ => hlast
      rw [if_pos (by omega), ← hlast, hday, Nat.sub_add_cancel hbeyond, hsettled, at?_self]
    · rw [if_neg (by omega), ← Nat.add_assoc, hday]
      have hsettled : m.settled =
          { date := m.date, second := m.second + 1, nano := m.nano - 1_000_000_000
            second_lt := by omega, nano_lt := by omega } := dif_pos ⟨hleap, hlast⟩
      rw [hsettled]
      exact dif_pos ⟨by omega, by omega⟩

end Moment

/-! ### Reading what is written -/

namespace Time

open SearchStore.Moment (padded yearText fractionText)

/-- The fields of a moment on a clock in UTC. -/
def Fields.ofMoment (m : Moment) : Fields :=
  { year := m.date.year, month := m.date.month, day := m.date.day
    hour := m.hour, minute := m.minute, second := m.secondOfMinute, nano := m.fraction, offset := 0 }

theorem Fields.resolve_eq_ok {f : Fields} {date : Date} {shown m : Moment}
    (hdate : Date.ofFields? f.year f.month f.day = some date)
    (hclock : Moment.ofClock? date f.hour f.minute f.second f.nano = some shown)
    (hoffset : shown.withoutOffset? f.offset = some m) : f.resolve = .ok m := by
  unfold resolve
  simp only [hdate, hclock, hoffset]

theorem Fields.resolve_ofMoment (m : Moment) : (ofMoment m).resolve = .ok m.settled :=
  resolve_eq_ok (Date.ofFields?_self m.date) m.ofClock?_self m.settled.withoutOffset?_zero

theorem endsNumber_cons {c : Char} (h : c.isDigit = false) (rest : List Char) : EndsNumber (c :: rest) := by
  intro d hd
  obtain rfl : c = d := Option.some.inj hd
  exact h

theorem dateFields_text {gap : List Char → List Char} (hgap : ∀ rest, gap ('-' :: rest) = '-' :: rest) (d : Date)
    (rest : List Char) :
    dateFields gap (yearText d.year ++ '-' :: (padded 2 d.month ++ '-' :: (padded 2 d.day ++ rest))) =
      .ok ((d.year, d.month, d.day), rest) := by
  obtain ⟨hmonth, hday⟩ := d.bounds
  have hyear : -262143 ≤ d.year ∧ d.year ≤ 262142 := ⟨d.holds.1, d.holds.2.1⟩
  have hreadYear := yearField_yearText hyear
    (endsNumber_cons (c := '-') rfl (padded 2 d.month ++ '-' :: (padded 2 d.day ++ rest)))
  have hreadMonth := within_field_padded (by decide) hmonth ('-' :: (padded 2 d.day ++ rest))
  have hreadDay := within_field_padded (by decide) hday rest
  simp only [dateFields, hreadYear, hreadMonth, hreadDay, hgap, literal_cons, bind, Except.bind]

theorem clockFields_text {gap : List Char → List Char} (hgap : ∀ rest, gap (':' :: rest) = ':' :: rest) (m : Moment)
    (rest : List Char) :
    clockFields gap (padded 2 m.hour ++ ':' :: (padded 2 m.minute ++ ':' :: (padded 2 m.secondOfMinute ++ rest))) =
      .ok ((m.hour, m.minute, m.secondOfMinute), rest) := by
  obtain ⟨hhour, hminute, hlast⟩ := m.clock_bounds
  have hreadHour := within_field_padded (by decide) hhour
    (':' :: (padded 2 m.minute ++ ':' :: (padded 2 m.secondOfMinute ++ rest)))
  have hreadMinute := within_field_padded (by decide) hminute (':' :: (padded 2 m.secondOfMinute ++ rest))
  have hreadSecond := within_field_padded (by decide) hlast rest
  simp only [clockFields, hreadHour, hreadMinute, hreadSecond, hgap, literal_cons, bind, Except.bind]

theorem secondsText_append (m : Moment) (rest : List Char) :
    m.secondsText ++ rest =
      yearText m.date.year ++ '-' :: (padded 2 m.date.month ++ '-' :: (padded 2 m.date.day ++
        'T' :: (padded 2 m.hour ++ ':' :: (padded 2 m.minute ++ ':' :: (padded 2 m.secondOfMinute ++ rest))))) := by
  simp [Moment.secondsText]

theorem relaxedFields_text (m : Moment) :
    relaxedFields (m.secondsText ++ (fractionText m.fraction ++ ['Z'])) = .ok (Fields.ofMoment m, []) := by
  have hdash : ∀ rest, Text.trimLeft ('-' :: rest) = '-' :: rest := fun rest => rfl
  have hcolon : ∀ rest, Text.trimLeft (':' :: rest) = ':' :: rest := fun rest => rfl
  have hreadDate := dateFields_text hdash m.date
    ('T' :: (padded 2 m.hour ++ ':' :: (padded 2 m.minute ++ ':' :: (padded 2 m.secondOfMinute ++
      (fractionText m.fraction ++ ['Z'])))))
  have hseparator : ∀ rest, relaxedSeparator ('T' :: rest) = .ok ((), rest) := fun rest => rfl
  have hreadClock := clockFields_text hcolon m (fractionText m.fraction ++ ['Z'])
  have hreadFraction : fraction (fractionText m.fraction ++ ['Z']) = .ok (m.fraction, ['Z']) := by
    refine fraction_fractionText ?_ (endsNumber_cons (by decide) []) (by decide)
    exact Nat.mod_lt _ (by decide)
  have hreadOffset : relaxedOffset (Text.trimLeft ['Z']) = .ok (0, []) := rfl
  rw [secondsText_append]
  simp only [relaxedFields, hreadDate, hseparator, hreadClock, hreadFraction, hreadOffset, bind, Except.bind]
  rfl

/-- A moment that is written with all its digits is read back as clocks show it. -/
theorem relaxed_zuluText (m : Moment) : relaxed m.zuluText = .ok m.settled := by
  have htext : m.zuluText.toList = m.secondsText ++ (fractionText m.fraction ++ ['Z']) := by
    simp [Moment.zuluText]
  have hwhole : whole relaxedFields m.zuluText.toList = .ok (Fields.ofMoment m) := by
    rw [htext, whole, relaxedFields_text]
    rfl
  rw [relaxed, hwhole]
  exact Fields.resolve_ofMoment m

end Time

end SearchStore
