import SearchStore.Text.Word

/-!
# Sets of characters

A set of characters is kept as the ascending list of the code points at which membership changes: the
first bound opens a run of members, the next one closes it, and so on. Each set has one such list, so
that two sets are equal exactly when their bounds are. The operations of Boolean algebra are one sweep
over the bounds of two sets (`CharSet.combine`).
-/

namespace SearchStore

/-- A set of characters. -/
structure CharSet where
  /-- The code points where membership changes, in ascending order, all below `CharSet.limit`. -/
  bounds : List Nat
deriving DecidableEq, Repr

namespace CharSet

/-- The first number that is no code point. -/
def limit : Nat := 0x110000

/-- Whether an odd number of ascending bounds lie at or below `n`. -/
def inside (n : Nat) : List Nat → Bool
  | [] => false
  | b :: rest => if b ≤ n then !inside n rest else false

/-- Membership. -/
def holds (set : CharSet) (c : Char) : Bool :=
  inside c.toNat set.bounds

/-- Bounds in ascending order, where two equal ones cancel out. -/
def cancel : List Nat → List Nat
  | [] => []
  | b :: rest =>
    match cancel rest with
    | [] => [b]
    | b' :: rest' => if b = b' then rest' else b :: b' :: rest'

/-- No character. -/
def empty : CharSet := ⟨[]⟩

/-- The code points from `low` to `high`. -/
def ofRange (low high : Nat) : CharSet :=
  ⟨if high + 1 < limit then [low, high + 1] else [low]⟩

/-- The set of the code points in ascending ranges that do not overlap. -/
def ofRanges (ranges : List (Nat × Nat)) : CharSet :=
  ⟨cancel (ranges.flatMap fun range => (ofRange range.1 range.2).bounds)⟩

/-- The characters from `low` to `high`. -/
def range (low high : Char) : CharSet := ofRange low.toNat high.toNat

/-- One character. -/
def single (c : Char) : CharSet := range c c

/-! ### Boolean algebra -/

/-- The bounds of two sets in one ascending list, `true` with those of the second set. A bound `b` of
the first set goes before `rest`, which takes what is left of the second. -/
def weaveBound (b : Nat) (rest : List Nat → List (Nat × Bool)) : List Nat → List (Nat × Bool)
  | [] => (b, false) :: rest []
  | b' :: others =>
    if b ≤ b' then (b, false) :: rest (b' :: others) else (b', true) :: weaveBound b rest others

/-- The bounds of two sets in one ascending list, `true` with those of the second set. -/
def weave : List Nat → List Nat → List (Nat × Bool)
  | [], others => others.map fun b => (b, true)
  | b :: bounds, others => weaveBound b (weave bounds) others

/-- The bounds of a combination: those where the value of `op` changes, given whether a character is in
the two sets before the first bound. -/
def sweep (op : Bool → Bool → Bool) (left right : Bool) : List (Nat × Bool) → List Nat
  | [] => []
  | (b, second) :: rest =>
    let left' := left != !second
    let right' := right != second
    if op left' right' = op left right then sweep op left' right' rest
    else b :: sweep op left' right' rest

/-- The characters for which `op` holds of their membership in the two sets; it must not hold of
characters in neither. -/
def combine (op : Bool → Bool → Bool) (s t : CharSet) : CharSet :=
  ⟨cancel (sweep op false false (weave s.bounds t.bounds))⟩

/-- The characters in one of the two sets. -/
def union (s t : CharSet) : CharSet := combine (· || ·) s t

/-- The characters in both sets. -/
def inter (s t : CharSet) : CharSet := combine (· && ·) s t

/-- The characters in the first set only. -/
def diff (s t : CharSet) : CharSet := combine (fun inS inT => inS && !inT) s t

/-- The characters in exactly one of the two sets. -/
def symmDiff (s t : CharSet) : CharSet := combine (· != ·) s t

/-- The characters outside the set. -/
def complement (s : CharSet) : CharSet :=
  ⟨cancel (0 :: s.bounds)⟩

/-- The characters in one of several sets. -/
def unions (sets : List CharSet) : CharSet := sets.foldr union empty

/-! ### Views -/

/-- The only member of a set of one. -/
def single? (s : CharSet) : Option Char :=
  match s.bounds with
  | [b, b'] => if b' = b + 1 then some (Char.ofNat b) else none
  | _ => none

/-- Pairs of bounds as closed ranges. -/
def pairs : List Nat → List (Nat × Nat)
  | [] => []
  | [b] => [(b, limit - 1)]
  | b :: b' :: rest => (b, b' - 1) :: pairs rest

/-- The members as ranges of code points, in ascending order. -/
def ranges (s : CharSet) : List (Nat × Nat) := pairs s.bounds

/-- Whether all members are ASCII characters. -/
def isAscii (s : CharSet) : Bool := s.ranges.all fun range => range.2 < 128

/-! ### Common sets -/

/-- Every character. -/
def all : CharSet := ⟨[0]⟩

/-- The characters that make up words, in any script. -/
def word : CharSet :=
  ofRanges ([(0x30, 0x39), (0x41, 0x5A), (0x5F, 0x5F), (0x61, 0x7A)] ++ Text.wordRanges)

/-- The decimal digits of any script. -/
def digit : CharSet := ofRanges ((0x30, 0x39) :: Text.digitRanges)

/-- The characters with the property `White_Space`. -/
def blank : CharSet := ofRanges Text.blankRanges

end CharSet

end SearchStore
