import DeviceCli.Text.CodeSet
import DeviceCli.Text.ScriptTable
import DeviceCli.Text.ScriptExtensionTable

/-!
# Scripts

* `Script.members` is the set of the characters of a script;
* `Script.users` is the set of the characters that a script uses, some of which it shares;
* `Script.named?` finds a script by its short or long name.
-/

namespace DeviceCli.Text

/-- A name in loose form: what does not tell names apart is dropped, which is letter case, blanks,
    hyphens and underscores. No name has a character beyond ASCII. -/
def looseName (cs : List Char) : List Char :=
  (cs.filter fun c => decide (c.toNat < 128) && !(c == ' ' || c == '-' || c == '_')).map
    Char.toLower

/-- A script, by its four-letter name. -/
structure Script where
  code : List Char
  deriving DecidableEq, Inhabited

namespace Script

/-- The script of a code point that has none. -/
def unknown : Script := ⟨['Z', 'z', 'z', 'z']⟩

/-- The table of runs, read from its written form. -/
def runs : Array (Run Script) :=
  ((words scriptRunText).map fun word => ⟨hexNat (word.drop 4), ⟨word.take 4⟩⟩).toArray

/-- The characters of a script. -/
def members (s : Script) : CodeSet := CodeSet.whereRun runs (· == s)

/-- The ranges of characters with scripts of their own, and these scripts. -/
def shared : List (CodeRange × List Script) :=
  (words scriptExtensionText).flatMap fun word => match piecesAt ':' word with
    | [span, scripts] =>
      let scripts : List Script := (piecesAt '+' scripts).map (⟨·⟩)
      (readCodeWord span).map fun r => (r, scripts)
    | _ => []

/-- The characters that a script uses: its own ones, unless they are listed with the scripts that
    use them, and those that are listed with it. -/
def users (s : Script) : CodeSet :=
  (s.members.difference (.ofRanges (shared.map (·.1)))).union
    (.ofRanges ((shared.filter (·.2.contains s)).map (·.1)))

/-- The names of each script, in loose form, short name first. -/
def names : List (Script × List (List Char)) :=
  (words scriptNameText).map fun word =>
    let parts := piecesAt '/' word
    (⟨parts.headD []⟩, parts.map looseName)

/-- The script of that name in loose form, short or long. -/
def named? (loose : List Char) : Option Script :=
  (names.find? fun entry => entry.2.contains loose).map (·.1)

end Script

end DeviceCli.Text
