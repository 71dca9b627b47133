import SearchStore.Decimal.Binary64

/-!
# Reading decimal digits

A decimal literal is read through a 64-bit significand. Digits are appended while the significand
fits a word; an integer digit that no longer fits raises the decimal exponent, as do the integer
digits after it, and a fraction digit that no longer fits is dropped with all behind it. The
significand is rounded to binary and then multiplied or divided by one rounded power of ten, so a
literal with many digits can land one unit away from the nearest number.
-/

namespace SearchStore.Decimal

/-- A significand and the power of ten that scales it. -/
structure Scientific where
  significand : Nat
  exponent : Int
deriving DecidableEq, Repr

/-- The significand with a digit appended, when that fits a word. -/
def append? (significand digit : Nat) : Option Nat :=
  if significand * 10 + digit < UInt64.size then some (significand * 10 + digit) else none

/-- Reads integer digits behind a significand. -/
def readInteger (significand : Nat) : List Nat → Scientific
  | [] => ⟨significand, 0⟩
  | digit :: rest =>
    match append? significand digit with
    | some next => readInteger next rest
    | none => ⟨significand, rest.length + 1⟩

/-- Reads fraction digits behind what the integer digits gave. -/
def readFraction (read : Scientific) : List Nat → Scientific
  | [] => read
  | digit :: rest =>
    match append? read.significand digit with
    | some next => readFraction ⟨next, read.exponent - 1⟩ rest
    | none => read

/-- The number nearest to a power of ten, which is finite up to `10^308`. -/
def tenPower (k : Nat) : Binary64 :=
  Binary64.ofNat (Nat.pow 10 k)

/-- `x · 10^e`, each step rounded; none when the result is infinite. Nothing is left of a
significand that is divided by more than `10^616`. -/
def scaleByTen (x : Binary64) (e : Int) : Option Binary64 :=
  if x.isZero then some x
  else
    match e with
    | .ofNat k => if k ≤ 308 then x.mul? (tenPower k) else none
    | .negSucc n =>
      if n + 1 ≤ 308 then some (x.div (tenPower (n + 1)))
      else if n + 1 ≤ 616 then some ((x.div (tenPower 308)).div (tenPower (n + 1 - 308)))
      else some ⟨0⟩

/-- The number a significand and exponent stand for, none when it is infinite. -/
def Scientific.toBinary64? (read : Scientific) (negative : Bool) : Option Binary64 :=
  (scaleByTen (Binary64.ofNat read.significand) read.exponent).map (·.withSign negative)

end SearchStore.Decimal
