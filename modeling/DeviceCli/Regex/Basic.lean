import DeviceCli.Regex.Footprint
import DeviceCli.Regex.Resolve
import DeviceCli.Regex.Search

/-!
# Regular expressions

A `Regex` is a pattern that has been read and compiled.

* `Regex.compile` reads a pattern, or says why it is none (`Regex.Error`);
* `Regex.find?` is the leftmost match in a text, among those the one that the pattern prefers;
* `Match.group?` is the text of a group.
-/

namespace DeviceCli

open DeviceCli.Regex

/-- Why a text is no usable pattern. -/
inductive Regex.Error where
  /-- it is not written as a pattern -/
  | malformed (problem : Problem)
  /-- it would take more space than allowed -/
  | tooLarge (limit : Nat)
  deriving DecidableEq, Repr

/-- The text of an error. -/
def Regex.Error.message : Regex.Error → String
  | malformed problem => s!"regex parse error: {problem.message}"
  | tooLarge limit => s!"Compiled regex exceeds size limit of {limit} bytes."

/-- A compiled regular expression. -/
structure Regex where
  program : Program
  deriving Inhabited, DecidableEq

/-- A match: the span of each group in characters of the text, group 0 first. -/
structure Match where
  text : List Char
  groups : List (Option (Nat × Nat))
  deriving Inhabited

namespace Regex

/-- Compiles the pattern under the given flags. -/
def compileWith (flags : Flags) (pattern : List Char) : Except Regex.Error Regex := do
  let e ← (parse pattern).mapError .malformed
  let node ← (e.resolve flags).mapError .malformed
  if node.tooLarge then throw (.tooLarge sizeLimit)
  pure ⟨node.compile⟩

/-- Compiles a pattern. -/
def compile (pattern : String) : Except Regex.Error Regex := compileWith {} pattern.toList

/-- Compiles a pattern whose `^` and `$` match at line ends. -/
def compileMultiLine (pattern : String) : Except Regex.Error Regex :=
  compileWith { multiLine := true } pattern.toList

/-- How many groups the pattern has, the whole match included. -/
def groupCount (r : Regex) : Nat := r.program.groups

/-- The span that slots give to a group. -/
def spanOf (slots : Slots) (group : Nat) : Option (Nat × Nat) :=
  match slots.lookup (2 * group), slots.lookup (2 * group + 1) with
  | some first, some last => some (first, last)
  | _, _ => none

/-- The match in a text. -/
def findChars? (r : Regex) (text : List Char) : Option Match :=
  (r.program.search text).map fun slots =>
    ⟨text, (List.range r.groupCount).map (spanOf slots)⟩

/-- The match in a text. -/
def find? (r : Regex) (text : String) : Option Match := r.findChars? text.toList

/-- Whether the pattern matches somewhere in a text. -/
def isMatch (r : Regex) (text : String) : Bool := (r.program.search text.toList).isSome

end Regex

namespace Match

/-- The text between two positions. -/
def slice (m : Match) (span : Nat × Nat) : List Char := (m.text.drop span.1).take (span.2 - span.1)

/-- The text of a group, if it took part in the match. -/
def group? (m : Match) (i : Nat) : Option String :=
  ((m.groups[i]?).getD none).map fun span => String.ofList (m.slice span)

/-- The texts of all groups. -/
def groupTexts (m : Match) : List (Option String) :=
  m.groups.map fun g => g.map fun span => String.ofList (m.slice span)

/-- The text without the whole match. -/
def without (m : Match) : String :=
  match m.groups.headD none with
  | some (first, last) => String.ofList (m.text.take first ++ m.text.drop last)
  | none => String.ofList m.text

end Match

end DeviceCli
