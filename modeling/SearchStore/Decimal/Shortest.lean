import SearchStore.Decimal.Binary64

/-!
# Shortest decimal digits

The fewest decimal digits that still read back as a given number. The reals that round to
`m · 2^q` form an interval around it, whose ends belong to it when `m` is even. On the grid of
decimals with `n` digits the two neighbours of the number are tried for `n = 1, 2, …`; the first
grid with a neighbour inside the interval wins, of two such neighbours the nearer, and an exact tie
is settled by the layout that asks. Seventeen digits always suffice.
-/

namespace SearchStore.Decimal

/-- How a number midway between two candidates is settled. -/
inductive Tie where
  /-- The candidate with the even last digit. -/
  | toEven
  /-- The larger candidate. -/
  | up
deriving DecidableEq, Repr

/-- Decimal digits `d₁d₂…dₙ` with the exponent of the first: `d₁.d₂…dₙ · 10^exponent`. -/
structure Digits where
  digits : List Char
  exponent : Int
deriving DecidableEq, Repr

/-- The reals that round to a number, over one denominator: the number is `value / den`, the ends
of the interval are `(value - below) / den` and `(value + above) / den`. -/
structure Interval where
  value : Nat
  den : Nat
  below : Nat
  above : Nat
  closed : Bool

/-- The interval of a finite number. Below a power of two the neighbour is half as far away. -/
def intervalOf (x : Binary64) : Interval :=
  let m := x.coefficient
  let s := Binary64.scaled 1 4 (-x.power)
  let narrow := m == Binary64.fractions && x.power != -1074
  { value := 4 * m * s.1, den := s.2
    below := (if narrow then 1 else 2) * s.1, above := 2 * s.1
    closed := m % 2 == 0 }

/-- Whether `candidate / scale` lies in the interval, everything over the interval's denominator. -/
def Interval.holds (i : Interval) (candidate scale : Nat) : Bool :=
  let c := candidate * i.den
  let low := (i.value - i.below) * scale
  let high := (i.value + i.above) * scale
  if i.closed then low ≤ c && c ≤ high else low < c && c < high

/-- The number of decimal digits of a natural. -/
def digitCount (n : Nat) : Nat :=
  (Nat.toDigits 10 n).length

/-- The decimal exponent of `num / den`: the `e` with `10^e ≤ num / den < 10^(e + 1)`. -/
def decimalExponent (num den : Nat) : Int :=
  if den ≤ num then (digitCount (num / den) : Int) - 1
  else -(digitCount ((den + num - 1) / num - 1) : Int)

/-- The number on the grid `10^(e + 1 - n)`, as a natural with its power of ten: of the two
neighbours of the value those in the interval, the nearer first. -/
def candidate? (tie : Tie) (i : Interval) (e : Int) (n : Nat) : Option Nat :=
  let grid : Int := e + 1 - n
  let up := Nat.pow 10 (-grid).toNat
  let down := Nat.pow 10 grid.toNat
  let floor := i.value * up / (i.den * down)
  let inside := fun c => i.holds (c * down) up
  let twiceRest := 2 * (i.value * up - floor * (i.den * down))
  let upper :=
    i.den * down < twiceRest ||
      (i.den * down == twiceRest && (tie == .up || floor % 2 == 1))
  match inside floor, inside (floor + 1) with
  | true, true => some (if upper then floor + 1 else floor)
  | true, false => some floor
  | false, true => some (floor + 1)
  | false, false => none

/-- The first grid, from `n` digits on, that has a candidate. -/
def searchDigits (tie : Tie) (i : Interval) (e : Int) : (grids n : Nat) → Nat × Nat
  | 0, n => ((candidate? tie i e n).getD 0, n)
  | grids + 1, n =>
    match candidate? tie i e n with
    | some c => (c, n)
    | none => searchDigits tie i e grids (n + 1)

/-- The digits of a natural without the zeros at its end; a lone zero stays. -/
def significantDigits (n : Nat) : List Char :=
  match ((Nat.toDigits 10 n).reverse.dropWhile (· == '0')).reverse with
  | [] => ['0']
  | digits => digits

/-- The shortest digits of a finite number without its sign. -/
def shortest (tie : Tie) (x : Binary64) : Digits :=
  if x.isZero then ⟨['0'], 0⟩
  else
    let i := intervalOf x
    let e := decimalExponent i.value i.den
    let found := searchDigits tie i e 16 1
    ⟨significantDigits found.1, e + ((digitCount found.1 : Int) - found.2)⟩

end SearchStore.Decimal
