/-!
# Punycode

A label of a domain name beyond ASCII is written with ASCII characters: first its own ASCII characters, then,
behind a hyphen, where the others are to be put in. Each of them is a number of places that are passed
over, in ascending order of the characters, written to base 36 with digits whose weights adapt to the numbers
before.
-/

namespace SearchStore.Text.Punycode

/-- The character of a digit: `a` to `z`, then `0` to `9`. -/
def digitChar (d : Nat) : Char :=
  if d < 26 then Char.ofNat ('a'.toNat + d) else Char.ofNat ('0'.toNat + d - 26)

/-- The value of a digit. -/
def digitValue? (c : Char) : Option Nat :=
  if 'a' ≤ c && c ≤ 'z' then some (c.toNat - 'a'.toNat)
  else if 'A' ≤ c && c ≤ 'Z' then some (c.toNat - 'A'.toNat)
  else if c.isDigit then some (c.toNat - '0'.toNat + 26)
  else none

/-- The least value that shows that another digit follows, for the digit at position `k`. -/
def threshold (k bias : Nat) : Nat := min 26 (max 1 (k - bias))

/-- A number cut down to a small one, and the positions that this takes. -/
def shrink : (fuel : Nat) → (k delta : Nat) → Nat
  | 0, k, delta => k + 36 * delta / (delta + 38)
  | fuel + 1, k, delta =>
    if 455 < delta then shrink fuel (k + 36) (delta / 35) else k + 36 * delta / (delta + 38)

/-- The bias behind a number, of which `count` characters have been put in. -/
def adapt (delta count : Nat) (first : Bool) : Nat :=
  let delta := if first then delta / 700 else delta / 2
  let delta := delta + delta / count
  shrink delta.log2 0 delta

/-! ### Writing -/

/-- The digits of a number. Each one divides it by at least 10, which bounds the fuel. -/
def digits (bias : Nat) : (fuel : Nat) → (k n : Nat) → List Char
  | 0, _, n => [digitChar n]
  | fuel + 1, k, n =>
    let t := threshold k bias
    if n < t then [digitChar n]
    else digitChar (t + (n - t) % (36 - t)) :: digits bias fuel (k + 36) ((n - t) / (36 - t))

/-- What has been written: the text, last first, how many characters it stands for, the places passed over since
the last number, and the bias. -/
structure Written where
  text : List Char
  count : Nat
  delta : Nat
  bias : Nat

/-- Passes a place of the label, where `next` is put in now. -/
def passPlace (basic next : Nat) (w : Written) (c : Char) : Written :=
  if c.toNat < next then { w with delta := w.delta + 1 }
  else if c.toNat = next then
    { text := (digits w.bias (w.delta.log2 + 1) 36 w.delta).reverse ++ w.text
      count := w.count + 1
      delta := 0
      bias := adapt w.delta (w.count + 1) (w.count = basic) }
  else w

/-- Puts in characters in ascending order, where those below `least` have been put in. -/
def putAll (label : List Char) (basic : Nat) : (least : Nat) → List Nat → Written → List Char
  | _, [], w => w.text.reverse
  | least, next :: rest, w =>
    let w := { w with delta := w.delta + (next - least) * (w.count + 1) }
    let w := label.foldl (passPlace basic next) w
    putAll label basic (next + 1) rest { w with delta := w.delta + 1 }

/-- The label in ASCII characters. -/
def encode (label : List Char) : List Char :=
  let basic := label.filter (·.toNat < 128)
  let others := ((label.map Char.toNat).filter (128 ≤ ·)).mergeSort.eraseDups
  let start := if basic.isEmpty then [] else basic ++ ['-']
  start ++ putAll label basic.length 128 others ⟨[], basic.length, 0, 72⟩

/-! ### Reading -/

/-- What has been read: the label, the last character put in, the place behind it, the bias, and of the number
being read the weight and the position of the next digit and the place where it started. -/
structure ReadSoFar where
  label : List Char
  last : Nat := 128
  place : Nat := 0
  bias : Nat := 72
  weight : Nat := 1
  k : Nat := 36
  start : Nat := 0

/-- Reads one digit. -/
def readDigit (r : ReadSoFar) (c : Char) : Option ReadSoFar := do
  let d ← digitValue? c
  let place := r.place + d * r.weight
  let t := threshold r.k r.bias
  if UInt32.size ≤ place then none
  else if t ≤ d then some { r with place, weight := r.weight * (36 - t), k := r.k + 36 }
  else
    let count := r.label.length + 1
    let code := r.last + place / count
    let at' := place % count
    if code.isValidChar then
      some
        { label := r.label.take at' ++ Char.ofNat code :: r.label.drop at'
          last := code
          place := at' + 1
          bias := adapt (place - r.start) count (r.start = 0)
          start := at' + 1 }
    else none

/-- The label that ASCII characters stand for. -/
def decode? (text : List Char) : Option (List Char) := do
  let tail := (text.reverse.takeWhile (· != '-')).reverse
  let basic := (text.take (text.length - tail.length)).dropLast
  let digits := if basic.isEmpty then text else tail
  let read ← digits.foldlM readDigit { label := basic }
  if read.weight = 1 then some read.label else none

end SearchStore.Text.Punycode
