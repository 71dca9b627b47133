import SearchStore.Text.List

/-!
# Durations

A duration is a number of seconds and of nanoseconds below one second. `Duration.render` writes it as
a list of units from years down to nanoseconds, `1year 2months 3days 4h 5m 6s 7ms 8us 9ns`, where a
year has 365.25 days and a month a twelfth of that, rounded to 30.44 days.
-/

namespace SearchStore

/-- A span of time. -/
structure Duration where
  seconds : Nat
  nanos : Nat
deriving DecidableEq, Repr, Inhabited

namespace Duration

/-- The units in which durations are written. -/
inductive TimeUnit where
  | nanosecond | microsecond | millisecond | second | minute | hour | day | week | month | year
deriving DecidableEq, Repr

/-- The spellings of a unit; case matters. -/
def TimeUnit.spellings : TimeUnit → List String
  | .nanosecond => ["nanos", "nsec", "ns"]
  | .microsecond => ["usec", "us", "µs"]
  | .millisecond => ["millis", "msec", "ms"]
  | .second => ["seconds", "second", "secs", "sec", "s"]
  | .minute => ["minutes", "minute", "min", "mins", "m"]
  | .hour => ["hours", "hour", "hr", "hrs", "h"]
  | .day => ["days", "day", "d"]
  | .week => ["weeks", "week", "wk", "wks", "w"]
  | .month => ["months", "month", "M"]
  | .year => ["years", "year", "yr", "yrs", "y"]

/-- All units. -/
def TimeUnit.all : List TimeUnit :=
  [.nanosecond, .microsecond, .millisecond, .second, .minute, .hour, .day, .week, .month, .year]

/-- The unit with a spelling. -/
def TimeUnit.ofSpelling? (text : String) : Option TimeUnit :=
  TimeUnit.all.find? fun unit => unit.spellings.contains text

/-- The length of a unit from the second up, in seconds. -/
def TimeUnit.inSeconds : TimeUnit → Option Nat
  | .second => some 1
  | .minute => some 60
  | .hour => some 3600
  | .day => some 86400
  | .week => some 604800
  | .month => some 2630016
  | .year => some 31557600
  | .nanosecond | .microsecond | .millisecond => none

/-- The length of a unit up to the minute, in nanoseconds. -/
def TimeUnit.inNanos : TimeUnit → Option Nat
  | .nanosecond => some 1
  | .microsecond => some 1_000
  | .millisecond => some 1_000_000
  | .second => some 1_000_000_000
  | .minute => some 60_000_000_000
  | .hour | .day | .week | .month | .year => none

/-! ### Writing -/

/-- A count with its unit, nothing for zero. -/
def part (unit : String) (count : Nat) : List String :=
  if count = 0 then [] else [toString count ++ unit]

/-- A count with its unit, which has a plural. -/
def pluralPart (unit : String) (count : Nat) : List String :=
  part (if count = 1 then unit else unit ++ "s") count

/-- The duration as a list of units, `0s` for zero. -/
def render (d : Duration) : String :=
  let inYear := d.seconds % 31557600
  let inMonth := inYear % 2630016
  let inDay := inMonth % 86400
  let parts :=
    pluralPart "year" (d.seconds / 31557600) ++ pluralPart "month" (inYear / 2630016) ++
      pluralPart "day" (inMonth / 86400) ++ part "h" (inDay / 3600) ++
      part "m" (inDay % 3600 / 60) ++ part "s" (inDay % 60) ++
      part "ms" (d.nanos / 1000000) ++ part "us" (d.nanos / 1000 % 1000) ++
      part "ns" (d.nanos % 1000)
  if parts.isEmpty then "0s" else Text.join " " parts

/-- The digits of a fraction of `1 / 10^width`, without the zeros at the end. -/
def fractionDigits (width rest : Nat) : List Char :=
  let digits := Nat.toDigits 10 rest
  let filled := List.replicate (width - digits.length) '0' ++ digits
  (filled.reverse.dropWhile (· == '0')).reverse

/-- A whole count with a decimal fraction, in one unit. -/
def decimalText (whole width rest : Nat) (unit : String) : String :=
  match fractionDigits width rest with
  | [] => toString whole ++ unit
  | digits => toString whole ++ "." ++ String.ofList digits ++ unit

/-- The duration in the largest of s, ms, µs and ns that it fills, with decimals. -/
def briefText (d : Duration) : String :=
  if 0 < d.seconds then decimalText d.seconds 9 d.nanos "s"
  else if 1_000_000 ≤ d.nanos then decimalText (d.nanos / 1_000_000) 6 (d.nanos % 1_000_000) "ms"
  else if 1_000 ≤ d.nanos then decimalText (d.nanos / 1_000) 3 (d.nanos % 1_000) "µs"
  else toString d.nanos ++ "ns"

end Duration

end SearchStore
