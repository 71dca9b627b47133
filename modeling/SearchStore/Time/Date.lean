/-!
# Calendar dates

Dates of the proleptic Gregorian calendar in the years `-262143` to `262142`. A `Date` carries the
proof that it is in the calendar, so `Date.ofFields?` is the only gate; `next?` and `previous?` step
by a day and fail at the ends of the calendar alone.
-/

namespace SearchStore

namespace Calendar

/-- Whether February has 29 days. -/
def isLeapYear (year : Int) : Bool :=
  year % 4 == 0 && (year % 100 != 0 || year % 400 == 0)

/-- The number of days of a month, none for a month that is not from 1 to 12. -/
def daysInMonth (year : Int) (month : Nat) : Nat :=
  if month = 2 then if isLeapYear year then 29 else 28
  else if month ∈ [4, 6, 9, 11] then 30
  else if 1 ≤ month ∧ month ≤ 12 then 31
  else 0

/-- The fields name a day of the calendar. -/
def Holds (year : Int) (month day : Nat) : Prop :=
  -262143 ≤ year ∧ year ≤ 262142 ∧ 1 ≤ day ∧ day ≤ daysInMonth year month

instance (year : Int) (month day : Nat) : Decidable (Holds year month day) :=
  inferInstanceAs (Decidable (_ ∧ _ ∧ _ ∧ _))

end Calendar

/-- A day of the calendar. -/
structure Date where
  year : Int
  month : Nat
  day : Nat
  holds : Calendar.Holds year month day
deriving DecidableEq

namespace Date

/-- The date with the given fields, if there is one. -/
def ofFields? (year : Int) (month day : Nat) : Option Date :=
  if h : Calendar.Holds year month day then some ⟨year, month, day, h⟩ else none

/-- The day after. -/
def next? (d : Date) : Option Date :=
  ofFields? d.year d.month (d.day + 1)
    <|> ofFields? d.year (d.month + 1) 1
    <|> ofFields? (d.year + 1) 1 1

/-- The day before. -/
def previous? (d : Date) : Option Date :=
  ofFields? d.year d.month (d.day - 1)
    <|> ofFields? d.year (d.month - 1) (Calendar.daysInMonth d.year (d.month - 1))
    <|> ofFields? (d.year - 1) 12 31

/-- The date that lies `days` days after 1970-01-01. Years are counted from March, which puts the
leap day last, and in cycles of 400 years, which have 146097 days. -/
def ofEpochDay? (days : Int) : Option Date :=
  let shifted := days + 719468
  let cycle := shifted.fdiv 146097
  let dayOfCycle := (shifted.fmod 146097).toNat
  let yearOfCycle :=
    (dayOfCycle - dayOfCycle / 1460 + dayOfCycle / 36524 - dayOfCycle / 146096) / 365
  let dayOfYear := dayOfCycle - (365 * yearOfCycle + yearOfCycle / 4 - yearOfCycle / 100)
  let monthFromMarch := (5 * dayOfYear + 2) / 153
  let day := dayOfYear - (153 * monthFromMarch + 2) / 5 + 1
  let month := if monthFromMarch < 10 then monthFromMarch + 3 else monthFromMarch - 9
  ofFields? (yearOfCycle + cycle * 400 + if month ≤ 2 then 1 else 0) month day

theorem ofFields?_self (d : Date) : ofFields? d.year d.month d.day = some d := by
  simp [ofFields?, d.holds]

end Date

end SearchStore
