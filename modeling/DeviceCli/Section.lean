import DeviceCli.Failure
import DeviceCli.Text.Blank

/-!
# Sections

The blocks of a configuration are nested by indentation. `sectionsIn` gives one `Section` for each
header line that a pattern matches, with the deeper indented lines behind it:

* the lines are those between runs of carriage returns and newlines;
* a section ends before the first line that is blank or not deeper than its header;
* a header inside a section is one of its lines, and a header that is blank owns no lines.

`sectionsOf` is the same by recursion over the lines, a section at a time.
-/

namespace DeviceCli

open DeviceCli.Text

/-- A header line and the lines that belong to it. -/
structure Section where
  header : String
  /-- the groups of the match on the header, the whole match first -/
  captures : List (Option String)
  lines : List String
  deriving DecidableEq, Inhabited

namespace Section

/-- The lines, with newlines between them. -/
def config (s : Section) : String := "\n".intercalate s.lines

/-- The text of a group of the match on the header. -/
def group? (s : Section) (i : Nat) : Option String := (s.captures[i]?).getD none

/-- The text that the pattern matched in the header. -/
def matched (s : Section) : String := (s.group? 0).getD ""

end Section

/-- The column of the first character that is not blank. -/
def indent? : List Char → Option Nat
  | [] => none
  | c :: rest => if isBlank c then (indent? rest).map (· + 1) else some 0

/-- The section that a header line opens, still without lines, if the pattern matches it. -/
def Section.open? (pattern : Regex) (line : List Char) : Option Section :=
  (pattern.findChars? line).map fun m => ⟨String.ofList line, m.groupTexts, []⟩

/-- Whether a line belongs to a section whose header is at a column. -/
def deeperThan (column : Nat) (line : List Char) : Bool :=
  match indent? line with
  | some c => column < c
  | none => false

/-! ## 1. One pass over the lines -/

/-- The sections found so far, the latest first, and the column of the last one's header while it
    is open. -/
structure SectionScan where
  found : List Section := []
  column : Option Nat := none
  deriving Inhabited

/-- One more line of the last section. -/
def SectionScan.extend (line : List Char) : List Section → List Section
  | [] => []
  | s :: older => { s with lines := s.lines ++ [String.ofList line] } :: older

/-- The scan behind one more line. -/
def SectionScan.step (pattern : Regex) (scan : SectionScan) (line : List Char) : SectionScan :=
  if (scan.column.map fun column => deeperThan column line).getD false then
    { scan with found := extend line scan.found }
  else match Section.open? pattern line with
    | some s => ⟨s :: scan.found, indent? line⟩
    | none => ⟨scan.found, none⟩

/-- The sections among some lines. -/
def sectionsAmong (pattern : Regex) (lines : List (List Char)) : List Section :=
  (lines.foldl (SectionScan.step pattern) {}).found.reverse

/-- The sections of a text. -/
def sectionsIn (pattern : Regex) (text : String) : List Section :=
  sectionsAmong pattern (breakLines text.toList)

/-- The sections of a text, for a pattern that is still to be compiled. -/
def sectionsMatching (text pattern : String) : Except Failure (List Section) := do
  let compiled ← (Regex.compile pattern).mapError fun e => .argument (.sectionPattern e)
  pure (sectionsIn compiled text)

/-! ## 2. A section at a time -/

/-- The sections among some lines, by recursion over them. -/
def sectionsOf (pattern : Regex) : List (List Char) → List Section
  | [] => []
  | line :: rest =>
    match Section.open? pattern line with
    | none => sectionsOf pattern rest
    | some s => match indent? line with
      | none => s :: sectionsOf pattern rest
      | some column =>
        let body := rest.takeWhile (deeperThan column)
        { s with lines := body.map String.ofList } :: sectionsOf pattern (rest.dropWhile (deeperThan column))
  termination_by lines => lines.length
  decreasing_by
    · simp
    · simp
    · have := (List.dropWhile_suffix (deeperThan column) (l := rest)).length_le
      simp only [List.length_cons]
      omega

end DeviceCli
