import DeviceCli.Text.CodeSet
import DeviceCli.Text.AgeTable

/-!
# Versions of the character database

Every code point with a meaning has it since some version.

* `codesSince` are the code points that came with a version;
* `codesUpTo?` are those that were there with a version, the ones of earlier versions included.
-/

namespace DeviceCli.Text

/-- The code points that came with a version, none if there is no such version. -/
def codesSince (version : String) : CodeSet := readCodes ((ageText.lookup version).getD [])

/-- The tables of all versions up to the one whose name passes a test. -/
def tablesUpTo? (p : String → Bool) : List (String × List String) → Option (List String)
  | [] => none
  | (version, table) :: rest =>
    if p version then some table else (tablesUpTo? p rest).map (table ++ ·)

/-- The code points that were there with the version whose name passes a test. -/
def codesUpTo? (p : String → Bool) : Option CodeSet := (tablesUpTo? p ageText).map readCodes

end DeviceCli.Text
