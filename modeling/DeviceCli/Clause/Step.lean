import DeviceCli.Clause.Lexer
import DeviceCli.Mode.Basic
import DeviceCli.Regex.Basic
import DeviceCli.Text.Numeral

/-!
# Steps as clauses

A step can be written as clauses, each a keyword with its argument, with semicolons between them
and, if one likes, braces around all of them.

* `clausesOf` reads clauses, `stepClauses` also checks that no keyword comes twice and that there
  are options;
* `Step.ofClauses` is the step that the clauses describe, and `Step.ofCalls` the one that is built
  from its options by a call for each other clause;
* `promptOf?` reads the pattern of a prompt that is written as a string.
-/

namespace DeviceCli

namespace Clause

/-! ## 1. Clauses -/

/-- The keywords of clauses. -/
inductive Keyword where
  | cmd | options | target | timeout | waitBefore | waitAfter | noCr
  deriving DecidableEq, Inhabited

namespace Keyword

/-- A keyword as it is written. -/
def name : Keyword → String
  | cmd => "cmd"
  | options => "options"
  | target => "target"
  | timeout => "timeout"
  | waitBefore => "wait_before"
  | waitAfter => "wait_after"
  | noCr => "no_cr"

/-- The keyword that is written so. -/
def named? : String → Option Keyword
  | "cmd" => some cmd
  | "options" => some options
  | "target" => some target
  | "timeout" => some timeout
  | "wait_before" => some waitBefore
  | "wait_after" => some waitAfter
  | "no_cr" => some noCr
  | _ => none

end Keyword

/-- A clause of a step; durations are in milliseconds. -/
inductive StepClause where
  | cmd (text : String)
  | options (modes : List String)
  | target (mode : String)
  | timeout (ms : Numeral)
  | waitBefore (ms : Numeral)
  | waitAfter (ms : Numeral)
  | noCr
  deriving DecidableEq, Inhabited

/-- The keyword of a clause. -/
def StepClause.keyword : StepClause → Keyword
  | cmd _ => .cmd
  | options _ => .options
  | target _ => .target
  | timeout _ => .timeout
  | waitBefore _ => .waitBefore
  | waitAfter _ => .waitAfter
  | noCr => .noCr

/-- Why a text is no step. -/
inductive ClauseError where
  /-- the text does not have the form of clauses -/
  | malformed
  | emptyOptions
  | unknownKeyword (word : String)
  | repeatedKeyword (keyword : Keyword)
  | missingOptions
  deriving DecidableEq, Inhabited

/-- An error in words. -/
def ClauseError.message : ClauseError → String
  | malformed => "malformed clauses"
  | emptyOptions => "options must name at least one mode"
  | unknownKeyword word => s!"unknown macro step keyword: {word}"
  | repeatedKeyword keyword => s!"duplicate macro step keyword: {keyword.name}"
  | missingOptions => "a macro step needs an options list"

/-! ## 2. Reading clauses -/

/-- The words that are no names. -/
def reservedWords : List String :=
  ["_", "abstract", "as", "async", "await", "become", "box", "break", "const", "continue", "crate",
    "do", "dyn", "else", "enum", "extern", "false", "final", "fn", "for", "if", "impl", "in", "let",
    "loop", "macro", "match", "mod", "move", "mut", "override", "priv", "pub", "ref", "return",
    "Self", "self", "static", "struct", "super", "trait", "true", "try", "type", "typeof", "unsafe",
    "unsized", "use", "virtual", "where", "while", "yield"]

/-- A string, and the rest. -/
def takeStringArg : List Tree → Except ClauseError (String × List Tree)
  | .token (.string s) :: rest => .ok (s, rest)
  | _ => .error .malformed

/-- A whole number, with or without a minus in front, and the rest. -/
def takeNumberArg : List Tree → Except ClauseError (Numeral × List Tree)
  | .token (.number n) :: rest => .ok (n, rest)
  | .token (.mark '-') :: .token (.number n) :: rest => .ok ({ n with negative := true }, rest)
  | _ => .error .malformed

/-- Strings with commas between them; a comma may also stand behind the last. -/
def stringsOf : List Tree → Except ClauseError (List String)
  | [] => .ok []
  | [.token (.string s)] => .ok [s]
  | .token (.string s) :: .token (.mark ',') :: rest => do
    let more ← stringsOf rest
    pure (s :: more)
  | _ => .error .malformed

/-- The modes between square brackets, of which there is at least one, and the rest. -/
def takeModes : List Tree → Except ClauseError (List String × List Tree)
  | .group .square content :: rest => do
    let modes ← stringsOf content
    if modes.isEmpty then .error .emptyOptions else .ok (modes, rest)
  | _ => .error .malformed

/-- The argument of a keyword. -/
def takeArgument (keyword : Keyword) (trees : List Tree) :
    Except ClauseError (StepClause × List Tree) :=
  match keyword with
  | .cmd => do
    let (text, rest) ← takeStringArg trees
    pure (.cmd text, rest)
  | .options => do
    let (modes, rest) ← takeModes trees
    pure (.options modes, rest)
  | .target => do
    let (mode, rest) ← takeStringArg trees
    pure (.target mode, rest)
  | .timeout => do
    let (ms, rest) ← takeNumberArg trees
    pure (.timeout ms, rest)
  | .waitBefore => do
    let (ms, rest) ← takeNumberArg trees
    pure (.waitBefore ms, rest)
  | .waitAfter => do
    let (ms, rest) ← takeNumberArg trees
    pure (.waitAfter ms, rest)
  | .noCr => .ok (.noCr, trees)

/-- A clause, and the rest. -/
def takeClause : List Tree → Except ClauseError (StepClause × List Tree)
  | .token (.word word) :: rest =>
    if reservedWords.contains word then .error .malformed
    else match Keyword.named? word with
      | some keyword => takeArgument keyword rest
      | none => .error (.unknownKeyword word)
  | _ => .error .malformed

/-- Clauses with semicolons between them; a semicolon may also stand behind the last. The first
    argument bounds their number. -/
def clausesWithin : Nat → List Tree → Except ClauseError (List StepClause)
  | _, [] => .ok []
  | 0, _ :: _ => .error .malformed
  | fuel + 1, trees => do
    let (clause, rest) ← takeClause trees
    match rest with
    | [] => pure [clause]
    | .token (.mark ';') :: rest => do
      let more ← clausesWithin fuel rest
      pure (clause :: more)
    | _ => .error .malformed

/-- The clauses that some trees are. -/
def clausesOf (trees : List Tree) : Except ClauseError (List StepClause) :=
  clausesWithin trees.length trees

/-! ## 3. Steps -/

/-- The first keyword that comes a second time. -/
def firstRepeated (seen : List Keyword) : List StepClause → Option Keyword
  | [] => none
  | clause :: rest =>
    if seen.contains clause.keyword then some clause.keyword
    else firstRepeated (clause.keyword :: seen) rest

/-- Refuses clauses with a keyword that comes twice, or without options. -/
def checkClauses (clauses : List StepClause) : Except ClauseError Unit :=
  match firstRepeated [] clauses with
  | some keyword => .error (.repeatedKeyword keyword)
  | none =>
    if clauses.any fun clause => clause.keyword == .options then .ok ()
    else .error .missingOptions

/-- The clauses of a step, bare or in braces. That something follows the braces is found last. -/
def stepClausesOf (trees : List Tree) : Except ClauseError (List StepClause) :=
  match trees with
  | .group .curly content :: rest => do
    let clauses ← clausesOf content
    checkClauses clauses
    if rest.isEmpty then .ok clauses else .error .malformed
  | _ => do
    let clauses ← clausesOf trees
    checkClauses clauses
    pure clauses

/-- The clauses of a step in a source text. -/
def stepClauses (source : String) : Except ClauseError (List StepClause) :=
  match treesOf? source with
  | some trees => stepClausesOf trees
  | none => .error .malformed

/-- The modes that the clauses name as options. -/
def optionsOf : List StepClause → List String
  | [] => []
  | .options modes :: rest => if rest.any fun c => c.keyword == .options then optionsOf rest else modes
  | _ :: rest => optionsOf rest

/-- Puts what a clause says into a step. -/
def StepClause.apply (step : Step) : StepClause → Step
  | cmd text => { step with cmd := some text }
  | options modes => { step with options := modes }
  | target mode => { step with target := some mode }
  | timeout ms => { step with timeout := some ms.value }
  | waitBefore ms => { step with waitBefore := some ms.value }
  | waitAfter ms => { step with waitAfter := some ms.value }
  | noCr => { step with noCr := true }

end Clause

/-- The step that clauses describe. -/
def Step.ofClauses (clauses : List Clause.StepClause) : Step :=
  clauses.foldl Clause.StepClause.apply { options := Clause.optionsOf clauses }

namespace Clause

/-! ## 4. Calls -/

/-- The argument of a call. -/
inductive Argument where
  | text (s : String)
  | number (n : Numeral)
  deriving DecidableEq, Inhabited

/-- The call by which a step that has its options is given what a clause says. -/
def StepClause.call? : StepClause → Option (String × List Argument)
  | cmd text => some ("cmd", [.text text])
  | options _ => none
  | target mode => some ("target", [.text mode])
  | timeout ms => some ("timeout_ms", [.number ms])
  | waitBefore ms => some ("wait_before_ms", [.number ms])
  | waitAfter ms => some ("wait_after_ms", [.number ms])
  | noCr => some ("no_cr", [])

/-- The calls that build a step from its options, in the order of the clauses. -/
def callsOf (clauses : List StepClause) : List (String × List Argument) :=
  clauses.filterMap StepClause.call?

/-- The number that a numeral stands for where a natural number of 64 bits is wanted. -/
def Numeral.word64? (n : Numeral) : Option Nat :=
  if !n.negative && (n.suffix == "" || n.suffix == "u64") && decide (n.value ≤ Text.maxNat64) then
    some n.value
  else none

/-- The step after a call, if there is such a method and the arguments are of its types. -/
def perform (step : Step) : String × List Argument → Option Step
  | ("cmd", [.text s]) => some { step with cmd := some s }
  | ("target", [.text s]) => some { step with target := some s }
  | ("timeout_ms", [.number n]) => n.word64?.map fun ms => { step with timeout := some ms }
  | ("wait_before_ms", [.number n]) => n.word64?.map fun ms => { step with waitBefore := some ms }
  | ("wait_after_ms", [.number n]) => n.word64?.map fun ms => { step with waitAfter := some ms }
  | ("no_cr", []) => some { step with noCr := true }
  | _ => none

end Clause

/-- The step that calls build from options, one after the other. -/
def Step.ofCalls (options : List String) (calls : List (String × List Clause.Argument)) :
    Option Step :=
  calls.foldlM Clause.perform { options := options }

namespace Clause

/-! ## 5. Prompts -/

/-- The text of a pattern that is written as one string. -/
def promptOf? (source : String) : Option String :=
  match treesOf? source with
  | some [.token (.string s)] => some s
  | _ => none

end Clause

end DeviceCli
