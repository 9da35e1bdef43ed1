import DeviceCli.Text.CodeSet
import DeviceCli.Text.CaseTable

/-!
# Letter case

* `foldPartners` are the characters that simple case folding makes the same as one, and
  `CodeSet.folded` adds them to a set;
* `upper` is the full upper case of a text, in which one character may become several;
* `lowerLatin` lowers the letters of the basic Latin alphabet only.
-/

namespace DeviceCli.Text

/-! ## 1. Arithmetic runs -/

/-- `count` code points from `start` on, `step` apart, each moved by `shift`. -/
structure CaseRun where
  start : Nat
  count : Nat
  step : Nat
  shift : Int
  deriving Inhabited

namespace CaseRun

/-- Whether a code point is one of the run. -/
def holds (r : CaseRun) (n : Nat) : Bool :=
  decide (r.start ≤ n) && decide (n < r.start + r.count * r.step) && (n - r.start) % r.step == 0

/-- The image of a code point of the run. -/
def image (r : CaseRun) (n : Nat) : Nat := ((n : Int) + r.shift).toNat

/-- The code points of the run. -/
def codes (r : CaseRun) : List Nat := (List.range r.count).map fun i => r.start + i * r.step

end CaseRun

/-- Reads a table of runs from its written form. -/
def readCaseRuns (table : List String) : List CaseRun :=
  (words table).map fun word => match piecesAt ',' word with
    | [start, count, step, shift] => ⟨hexNat start, hexNat count, hexNat step, hexInt shift⟩
    | _ => ⟨0, 0, 1, 0⟩

/-! ## 2. Folding -/

/-- The runs of simple case folding. -/
def foldRuns : List CaseRun := readCaseRuns foldRunText

/-- The classes of code points that folding makes the same: what they fold to, then the others. -/
def foldClasses : List (List Nat) :=
  let pairs := foldRuns.flatMap fun r => r.codes.map fun n => (r.image n, n)
  let sorted := pairs.mergeSort fun a b => decide (a.1 ≤ b.1)
  (sorted.splitBy fun a b => a.1 == b.1).map fun group =>
    (group.headD (0, 0)).1 :: group.map (·.2)

/-- Each code point of a class of several, in ascending order, with the others of its class. -/
def foldOrbits : Array (Run (List Nat)) :=
  ((foldClasses.flatMap fun members => members.map fun n =>
    (⟨n, members.filter (· != n)⟩ : Run (List Nat))).mergeSort
      fun a b => decide (a.start ≤ b.start)).toArray

/-- The other code points that fold to the same as `n`. -/
def foldPartners (n : Nat) : List Nat :=
  match foldOrbits[lastRunIndex foldOrbits n 0 foldOrbits.size]? with
  | some orbit => if orbit.start = n then orbit.value else []
  | none => []

/-- A set with all code points that fold to the same as a member. -/
def CodeSet.folded (s : CodeSet) : CodeSet :=
  s.union (.ofCodes (foldOrbits.toList.flatMap fun orbit =>
    if s.contains orbit.start then orbit.value else []))

/-- A set with the other case of the letters A to Z in it. -/
def CodeSet.latinFolded (s : CodeSet) : CodeSet :=
  let other (n : Nat) (shift : Int) : List Nat :=
    if s.contains n then [((n : Int) + shift).toNat] else []
  s.union (.ofCodes ((List.range 26).flatMap fun i => other (65 + i) 32 ++ other (97 + i) (-32)))

/-! ## 3. Upper and lower case of texts -/

/-- The runs of the upper case that is one character. -/
def upperRuns : List CaseRun := readCaseRuns upperRunText

/-- The characters whose upper case is several characters. -/
def upperSeveral : List (Nat × List Char) :=
  (words upperSeveralText).map fun word => match piecesAt ':' word with
    | [code, image] => (hexNat code, (piecesAt '+' image).map fun d => Char.ofNat (hexNat d))
    | _ => (0, [])

/-- The upper case of one character. -/
def upperChar (c : Char) : List Char :=
  if c.toNat < 128 then [c.toUpper]
  else match upperSeveral.lookup c.toNat with
    | some image => image
    | none => match upperRuns.find? (·.holds c.toNat) with
      | some r => [Char.ofNat (r.image c.toNat)]
      | none => [c]

/-- The upper case of a text, character by character. -/
def upper (s : String) : String := String.ofList (s.toList.flatMap upperChar)

/-- A text with the letters A to Z lowered and all else kept. -/
def lowerLatin (s : String) : String := String.ofList (s.toList.map Char.toLower)

end DeviceCli.Text
