import SearchStore.Time.Date

/-!
# Moments in UTC

A moment is a date, a second of the day and nanoseconds. A leap second is the second before it with
`10^9` nanoseconds or more, so that it keeps its place when a time zone is taken off.

The texts are those of ISO 8601: years outside `0` to `9999` have a sign and at least four digits.
-/

namespace SearchStore

/-- A moment in UTC. -/
structure Moment where
  date : Date
  second : Nat
  nano : Nat
  second_lt : second < 86400
  nano_lt : nano < 2_000_000_000
deriving DecidableEq

namespace Moment

/-- The moment of a date with a second of the day. -/
def at? (date : Date) (second nano : Nat) : Option Moment :=
  if h : second < 86400 ∧ nano < 2_000_000_000 then some ⟨date, second, nano, h.1, h.2⟩ else none

/-- The moment with the given time of day; second 60 is a leap second. -/
def ofClock? (date : Date) (hour minute second nano : Nat) : Option Moment :=
  if hour < 24 ∧ minute < 60 ∧ second ≤ 60 ∧ nano < 1_000_000_000 then
    if second = 60 then at? date (hour * 3600 + minute * 60 + 59) (nano + 1_000_000_000)
    else at? date (hour * 3600 + minute * 60 + second) nano
  else none

/-- The moment at which clocks that are `offset` seconds ahead show `m`. -/
def withoutOffset? (m : Moment) (offset : Int) : Option Moment :=
  let second := (m.second : Int) - offset
  if second < 0 then m.date.previous?.bind fun d => at? d (second + 86400).toNat m.nano
  else if second < 86400 then at? m.date second.toNat m.nano
  else m.date.next?.bind fun d => at? d (second - 86400).toNat m.nano

/-- The moment a number of seconds after 1970-01-01T00:00:00. -/
def ofUnixSeconds? (seconds : Int) : Option Moment :=
  (Date.ofEpochDay? (seconds.fdiv 86400)).bind fun d => at? d (seconds.fmod 86400).toNat 0

/-- Hour of the day. -/
def hour (m : Moment) : Nat := m.second / 3600

/-- Minute of the hour. -/
def minute (m : Moment) : Nat := m.second % 3600 / 60

/-- Whether the moment lies in a leap second. -/
def inLeapSecond (m : Moment) : Bool := 1_000_000_000 ≤ m.nano

/-- Second of the minute, 60 in a leap second. -/
def secondOfMinute (m : Moment) : Nat :=
  m.second % 60 + if m.inLeapSecond then 1 else 0

/-- Nanosecond of the second. -/
def fraction (m : Moment) : Nat := m.nano % 1_000_000_000

/-! ### Texts -/

/-- A natural with zeros in front up to `width` digits. -/
def padded (width n : Nat) : List Char :=
  let digits := Nat.toDigits 10 n
  List.replicate (width - digits.length) '0' ++ digits

/-- A year: four digits from `0` to `9999`, a sign and at least four digits otherwise. -/
def yearText (year : Int) : List Char :=
  match year with
  | .ofNat n => if n ≤ 9999 then padded 4 n else '+' :: padded 4 n
  | .negSucc n => '-' :: padded 4 (n + 1)

/-- Date and time to the second, `2024-03-01T12:00:00`. -/
def secondsText (m : Moment) : List Char :=
  yearText m.date.year ++ '-' :: padded 2 m.date.month ++ '-' :: padded 2 m.date.day ++
    'T' :: padded 2 m.hour ++ ':' :: padded 2 m.minute ++ ':' :: padded 2 m.secondOfMinute

/-- The nanoseconds in the fewest of 0, 3, 6 and 9 digits that are exact. -/
def fractionText (nanos : Nat) : List Char :=
  if nanos = 0 then []
  else if nanos % 1_000_000 = 0 then '.' :: padded 3 (nanos / 1_000_000)
  else if nanos % 1_000 = 0 then '.' :: padded 6 (nanos / 1_000)
  else '.' :: padded 9 nanos

/-- Whole seconds with a numeric offset, `2024-03-01T12:00:00+00:00`. -/
def offsetText (m : Moment) : String :=
  String.ofList (m.secondsText ++ ['+', '0', '0', ':', '0', '0'])

/-- All digits the moment has, with the offset `Z`. -/
def zuluText (m : Moment) : String :=
  String.ofList (m.secondsText ++ fractionText m.fraction ++ ['Z'])

/-- The digits of date and time without separators, `20240301120000`. -/
def stampText (m : Moment) : String :=
  String.ofList (yearText m.date.year ++ padded 2 m.date.month ++ padded 2 m.date.day ++
    padded 2 m.hour ++ padded 2 m.minute ++ padded 2 m.secondOfMinute)

end Moment

end SearchStore
