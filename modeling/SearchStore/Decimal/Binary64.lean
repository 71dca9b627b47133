/-!
# Binary floating point numbers

A number of the IEEE 754 format binary64 is held as its 64 bits, so that equality is decidable and
two zeros differ. A finite number is `(-1)^s · m · 2^q` with `m < 2^53`; `ofRatio?` rounds an exact
quotient of naturals to the nearest such number, ties to even `m`, and every operation here is an
exact operation followed by that rounding.
-/

namespace SearchStore

/-- A binary64 number, given by its bits: sign, 11 bits of exponent, 52 bits of fraction. -/
structure Binary64 where
  bits : UInt64
deriving DecidableEq, Repr, Inhabited

namespace Binary64

/-- How many magnitudes there are between two powers of two: `2^52`. -/
def fractions : Nat := 0x10000000000000

/-- The bit pattern of a zero with the sign set: `2^63`. -/
def signBit : Nat := 0x8000000000000000

/-- The bit pattern of positive infinity; the patterns below it are the finite magnitudes. -/
def infinityBits : Nat := 0x7FF * fractions

/-- The bits without the sign. -/
def magnitudeBits (x : Binary64) : Nat :=
  x.bits.toNat % signBit

/-- Whether the sign bit is set. -/
def isNegative (x : Binary64) : Bool :=
  signBit ≤ x.bits.toNat

/-- The number is a zero of either sign. -/
def isZero (x : Binary64) : Bool :=
  x.magnitudeBits == 0

/-- The coefficient `m` of the magnitude `m · 2^q`. -/
def coefficient (x : Binary64) : Nat :=
  if x.magnitudeBits < fractions then x.magnitudeBits
  else x.magnitudeBits % fractions + fractions

/-- The power `q` of the magnitude `m · 2^q`. -/
def power (x : Binary64) : Int :=
  if x.magnitudeBits < fractions then -1074
  else (x.magnitudeBits / fractions : Nat) - 1075

/-- The number with the given magnitude bits. -/
def ofMagnitude (negative : Bool) (magnitude : Nat) : Binary64 :=
  ⟨UInt64.ofNat (if negative then magnitude + signBit else magnitude)⟩

/-- The number with its sign set as given. -/
def withSign (negative : Bool) (x : Binary64) : Binary64 :=
  ofMagnitude negative x.magnitudeBits

/-- `num / den` rounded to a natural, ties to even. -/
def roundHalfEven (num den : Nat) : Nat :=
  let quotient := num / den
  let double := 2 * (num % den)
  if double < den then quotient
  else if den < double then quotient + 1
  else quotient + quotient % 2

/-- The pair `(a, b)` with `a / b = num / den / 2^q`. -/
def scaled (num den : Nat) (q : Int) : Nat × Nat :=
  match q with
  | .ofNat n => (num, den * Nat.pow 2 n)
  | .negSucc n => (num * Nat.pow 2 (n + 1), den)

/-- The power of two in which `num / den` is rounded: the least one, from `-1074` up, that leaves a
quotient below `2^53`. -/
def roundingPower (num den : Nat) : Int :=
  let low : Int := max ((Nat.log2 num : Int) - Nat.log2 den - 53) (-1074)
  let atLow := scaled num den low
  if atLow.1 / atLow.2 < 2 * fractions then low else low + 1

/-- The magnitude bits of the number nearest to `num / den`. A coefficient that rounds up to `2^53`
carries into the exponent by itself. -/
def nearestMagnitude (num den : Nat) : Nat :=
  if num = 0 then 0
  else
    let q := roundingPower num den
    let s := scaled num den q
    (q + 1074).toNat * fractions + roundHalfEven s.1 s.2

/-- The number nearest to `num / den`, none when that is infinite. -/
def ofRatio? (num den : Nat) : Option Binary64 :=
  let magnitude := nearestMagnitude num den
  if magnitude < infinityBits then some (ofMagnitude false magnitude) else none

/-- The number nearest to a natural; zero stands in beyond the finite range. -/
def ofNat (n : Nat) : Binary64 :=
  (ofRatio? n 1).getD ⟨0⟩

/-- The magnitude as an exact quotient. -/
def ratio (x : Binary64) : Nat × Nat :=
  let s := scaled 1 1 (-x.power)
  (x.coefficient * s.1, s.2)

/-- The rounded product of two magnitudes, none when that is infinite. -/
def mul? (x y : Binary64) : Option Binary64 :=
  ofRatio? (x.ratio.1 * y.ratio.1) (x.ratio.2 * y.ratio.2)

/-- The rounded quotient of two magnitudes; a zero divisor gives zero. -/
def div (x y : Binary64) : Binary64 :=
  if y.isZero then ⟨0⟩
  else (ofRatio? (x.ratio.1 * y.ratio.2) (x.ratio.2 * y.ratio.1)).getD ⟨0⟩

end Binary64

end SearchStore
