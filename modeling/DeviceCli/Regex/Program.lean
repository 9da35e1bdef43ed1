import DeviceCli.Regex.Node

/-!
# Compiled patterns

A pattern is compiled to instructions that refer to each other by number. `Node.emit` adds the
instructions of a pattern, given the number of the one to go on with; a loop is tied by reserving
its instruction before its body is there.

Where a body may match the empty text, its repetition `x*` is compiled as `(x+)?`: the preference
among matches depends on it.
-/

namespace DeviceCli.Regex

open DeviceCli.Text

/-- One instruction. -/
inductive Inst where
  /-- take this character -/
  | char (c : Char) (next : Nat)
  /-- take a character of the set -/
  | take (members : CodeSet) (next : Nat)
  /-- go on if the condition holds here -/
  | look (l : Look) (next : Nat)
  /-- note the position in a slot -/
  | save (slot : Nat) (next : Nat)
  /-- try the first, then the second -/
  | split (first second : Nat)
  /-- the pattern has matched -/
  | accept
  deriving Inhabited, DecidableEq

/-- Instructions under construction, and the number of the one to start with. -/
structure Code where
  insts : Array Inst
  start : Nat
  deriving Inhabited

namespace Code

/-- One more instruction, which becomes the start. -/
def add (code : Array Inst) (inst : Inst) : Code :=
  let start := code.size
  ⟨code.push inst, start⟩

/-- The instruction that prefers going into a body over leaving it, or the other way round. -/
def choice (greedy : Bool) (enter leave : Nat) : Inst :=
  if greedy then .split enter leave else .split leave enter

/-- The body so many times in a row. -/
def times (body : Nat → Array Inst → Code) : Nat → Nat → Array Inst → Code
  | 0, next, insts => ⟨insts, next⟩
  | n + 1, next, insts =>
    let last := body next insts
    times body n last.start last.insts

/-- The body up to so many times, each within the one before it. -/
def upTo (body : Nat → Array Inst → Code) (greedy : Bool) (leave : Nat) :
    Nat → Nat → Array Inst → Code
  | 0, next, insts => ⟨insts, next⟩
  | n + 1, next, insts =>
    let inner := body next insts
    let enter := add inner.insts (choice greedy inner.start leave)
    upTo body greedy leave n enter.start enter.insts

/-- The body once or more; the start is that of the body, and the instruction behind it that
    goes round again or leaves has the number `insts.size`. -/
def oneOrMore (body : Nat → Array Inst → Code) (greedy : Bool) (next : Nat)
    (insts : Array Inst) : Code :=
  let again := insts.size
  let inner := body again (insts.push .accept)
  ⟨inner.insts.setIfInBounds again (choice greedy inner.start next), inner.start⟩

/-- A repetition of a body. -/
def repeated (body : Nat → Array Inst → Code) (maybeEmpty : Bool) (count : Count)
    (greedy : Bool) (next : Nat) (insts : Array Inst) : Code :=
  match count.most with
  | some most =>
    let rest := upTo body greedy next (most - count.least) next insts
    times body count.least rest.start rest.insts
  | none => match count.least with
    | 0 =>
      let loop := oneOrMore body greedy next insts
      if maybeEmpty then add loop.insts (choice greedy loop.start next)
      else ⟨loop.insts, insts.size⟩
    | n + 1 =>
      let loop := oneOrMore body greedy next insts
      times body n loop.start loop.insts

/-- Some characters in a row. -/
def literal : List Char → Nat → Array Inst → Code
  | [], next, insts => ⟨insts, next⟩
  | c :: rest, next, insts =>
    let after := literal rest next insts
    add after.insts (.char c after.start)

end Code

/-- The instructions of a pattern, to go on at `next`. -/
def Node.emit : Node → Nat → Array Inst → Code
  | empty, next, insts => ⟨insts, next⟩
  | literal chars, next, insts => Code.literal chars next insts
  | set members, next, insts => Code.add insts (.take members next)
  | look l, next, insts => Code.add insts (.look l next)
  | capture index body, next, insts =>
    let close := Code.add insts (.save (2 * index + 1) next)
    let inner := body.emit close.start close.insts
    Code.add inner.insts (.save (2 * index) inner.start)
  | repeats count greedy body, next, insts =>
    Code.repeated body.emit body.maybeEmpty count greedy next insts
  | seq a b, next, insts =>
    let second := b.emit next insts
    a.emit second.start second.insts
  | alt a b, next, insts =>
    let second := b.emit next insts
    let first := a.emit next second.insts
    Code.add first.insts (.split first.start second.start)

/-- A compiled pattern: its instructions, the first of them, and how many groups it has, the
    whole match being group 0. -/
structure Program where
  insts : Array Inst
  start : Nat
  groups : Nat
  deriving Inhabited, DecidableEq

/-- Compiles a pattern. -/
def Node.compile (node : Node) : Program :=
  let code := (capture 0 node).emit 0 #[.accept]
  ⟨code.insts, code.start, node.lastCapture + 1⟩

end DeviceCli.Regex
