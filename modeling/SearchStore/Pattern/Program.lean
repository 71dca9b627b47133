import SearchStore.Pattern.Basic

/-!
# Programs of patterns

A pattern is run as a program of numbered instructions. Code is put together from the end: a block is code
for a part of the pattern, given the instruction to go on with, and tells where it is to be entered
(`Pattern.block`). The order of the two ways on from a fork says which of two matches is preferred: of
alternatives the left one, of a greedy repetition one more round.

A repetition of a body that takes at least one character forks before each round. A body that can match the
empty text forks behind each round instead, so that a round that takes nothing ends the repetition.
-/

namespace SearchStore.Pattern

/-- One step of a program. -/
inductive Instruction where
  /-- Takes one character of a set. -/
  | take (set : CharSet) (next : Nat)
  /-- Goes on where a condition holds. -/
  | check (condition : Look) (next : Nat)
  /-- Notes that the group starts, or that it ends. -/
  | mark (group : Nat) (ends : Bool) (next : Nat)
  /-- Goes on in two ways, the preferred one first. -/
  | fork (first second : Nat)
  /-- The end of the pattern. -/
  | accept
deriving DecidableEq, Repr

/-- A program: its instructions, and the number of the first one. -/
structure Program where
  code : Array Instruction
  entry : Nat
deriving Repr

/-- Code for a part of a pattern: given the instruction to go on with, it appends instructions to those
there are and gives the one to enter. -/
abbrev Block := (next : Nat) → Array Instruction → Nat × Array Instruction

namespace Block

/-- No code. -/
def skip : Block := fun next code => (next, code)

/-- One instruction. -/
def one (instruction : Nat → Instruction) : Block := fun next code =>
  (code.size, code.push (instruction next))

/-- One block after the other. -/
def andThen (first second : Block) : Block := fun next code =>
  let (middle, code) := second next code
  first middle code

/-- A fork between a block that is entered at `inner` and what comes behind it. -/
def forkTo (greedy : Bool) (inner next : Nat) : Instruction :=
  if greedy then .fork inner next else .fork next inner

/-- Exactly `n` rounds. -/
def times (block : Block) : (n : Nat) → Block
  | 0 => skip
  | n + 1 => block.andThen (block.times n)

/-- Up to `n` rounds, each of which can be the last. -/
def upTo (greedy : Bool) (block : Block) : (n : Nat) → Block
  | 0 => skip
  | n + 1 => fun next code =>
    let (middle, code) := block.upTo greedy n next code
    let (inner, code) := block middle code
    (code.size, code.push (forkTo greedy inner next))

/-- A loop with its fork and the entry of its body: behind each round comes the fork. -/
def loop (greedy : Bool) (block : Block) (next : Nat) (code : Array Instruction) :
    (Nat × Nat) × Array Instruction :=
  let fork := code.size
  let (inner, code) := block fork (code.push .accept)
  ((fork, inner), code.setIfInBounds fork (forkTo greedy inner next))

/-- Any number of rounds of a block that takes a character in each. -/
def anyTimes (greedy : Bool) (block : Block) : Block := fun next code =>
  let ((fork, _), code) := loop greedy block next code
  (fork, code)

/-- One round or more. -/
def someTimes (greedy : Bool) (block : Block) : Block := fun next code =>
  let ((_, inner), code) := loop greedy block next code
  (inner, code)

end Block

/-- The code of a repetition; `takes` says that the body takes a character in each round. -/
def repetitionBlock (least : Nat) (most : Option Nat) (greedy takes : Bool) (body : Block) : Block :=
  match most with
  | some most => (body.times least).andThen (body.upTo greedy (most - least))
  | none =>
    match least with
    | 0 => if takes then body.anyTimes greedy else fun next code =>
        let (inner, code) := body.someTimes greedy next code
        (code.size, code.push (Block.forkTo greedy inner next))
    | least + 1 => (body.times least).andThen (body.someTimes greedy)

/-- The code of a pattern. -/
def block : Pattern → Block
  | .empty => Block.skip
  | .text chars => chars.foldr (fun c rest => (Block.one (.take (.single c))).andThen rest) Block.skip
  | .char set => Block.one (.take set)
  | .look condition => Block.one (.check condition)
  | .repetition least most greedy body =>
    repetitionBlock least most greedy (body.minLength.any (0 < ·)) body.block
  | .group index body =>
    (Block.one (.mark index false)).andThen (body.block.andThen (Block.one (.mark index true)))
  | .seq first rest => first.block.andThen rest.block
  | .alt first rest => fun next code =>
    let (right, code) := rest.block next code
    let (left, code) := first.block next code
    (code.size, code.push (.fork left right))

/-- The program of a pattern. -/
def program (p : Pattern) : Program :=
  let (entry, code) := p.block 0 #[.accept]
  ⟨code, entry⟩

end SearchStore.Pattern
