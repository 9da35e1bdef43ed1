import DeviceCli.Regex.Segmentation

/-!
# Properties by name

A class such as `\p{Greek}` or `\p{gc=Lu}` names a property of characters.

* `property?` is the set of a property named on its own: one that a character has or lacks, a
  general category or a script;
* `propertyValue?` is the set of the characters for which a property has a value;
* `asciiClass?` is the set of a POSIX name such as `alpha`.
-/

namespace DeviceCli.Regex

open DeviceCli.Text

/-! ## 1. Names -/

/-- A property name in loose form and without a leading `is`; one short name is kept apart from
    the category of that letter. -/
def propertyName (name : List Char) : String :=
  match name with
  | a :: b :: rest =>
    if (a == 'i' || a == 'I') && (b == 's' || b == 'S') then
      match looseName rest with
      | ['c'] => "isc"
      | loose => String.ofList loose
    else String.ofList (looseName name)
  | _ => String.ofList (looseName name)

/-! ## 2. General categories -/

/-- The general categories by name: the loose forms of the name and the categories it covers. -/
def categoryNames : List (List String × List String) :=
  [ (["lu", "uppercaseletter"], ["Lu"]), (["ll", "lowercaseletter"], ["Ll"]),
    (["lt", "titlecaseletter"], ["Lt"]), (["lm", "modifierletter"], ["Lm"]),
    (["lo", "otherletter"], ["Lo"]), (["lc", "casedletter"], ["Lu", "Ll", "Lt"]),
    (["mn", "nonspacingmark"], ["Mn"]), (["mc", "spacingmark"], ["Mc"]),
    (["me", "enclosingmark"], ["Me"]), (["nd", "decimalnumber", "digit"], ["Nd"]),
    (["nl", "letternumber"], ["Nl"]), (["no", "othernumber"], ["No"]),
    (["pc", "connectorpunctuation"], ["Pc"]), (["pd", "dashpunctuation"], ["Pd"]),
    (["ps", "openpunctuation"], ["Ps"]), (["pe", "closepunctuation"], ["Pe"]),
    (["pi", "initialpunctuation"], ["Pi"]), (["pf", "finalpunctuation"], ["Pf"]),
    (["po", "otherpunctuation"], ["Po"]), (["sm", "mathsymbol"], ["Sm"]),
    (["sc", "currencysymbol"], ["Sc"]), (["sk", "modifiersymbol"], ["Sk"]),
    (["so", "othersymbol"], ["So"]), (["zs", "spaceseparator"], ["Zs"]),
    (["zl", "lineseparator"], ["Zl"]), (["zp", "paragraphseparator"], ["Zp"]),
    (["cc", "control", "cntrl"], ["Cc"]), (["cf", "format"], ["Cf"]),
    (["co", "privateuse"], ["Co"]), (["cn", "unassigned"], ["Cn"]) ]

/-- The groups of general categories by the loose forms of their names. -/
def groupNames : List (List String × Char) :=
  [ (["l", "letter"], 'L'), (["m", "mark", "combiningmark"], 'M'), (["n", "number"], 'N'),
    (["p", "punctuation", "punct"], 'P'), (["s", "symbol"], 'S'), (["z", "separator"], 'Z'),
    (["c", "other"], 'C') ]

/-- A category from its two-letter name. -/
def categoryOfCode (code : String) : Category :=
  match code.toList with
  | [a, b] => ⟨a, b⟩
  | _ => Category.unassigned

/-- The characters of a general category or of a group of them, by its loose name. -/
def generalCategory? (loose : String) : Option CodeSet :=
  match loose with
  | "any" => some .all
  | "ascii" => some asciiCodes
  | "assigned" => some unassignedCodes.complement
  | _ => match groupNames.find? (·.1.contains loose) with
    | some (_, letter) => some (inCategories (·.group == letter))
    | none => (categoryNames.find? (·.1.contains loose)).map fun entry =>
        ofCategories (entry.2.map categoryOfCode)

/-! ## 3. Look-up -/

/-- The characters of a property named on its own. -/
def property? (name : List Char) : Option CodeSet :=
  let loose := propertyName name
  match trait? loose with
  | some s => some s
  | none => match generalCategory? loose with
    | some s => some s
    | none => (Script.named? loose.toList).map Script.members

/-- Whether a loose name is that of a version, as in `16.0` or `V16_0`. -/
def namesVersion (loose version : String) : Bool :=
  loose == version || loose.toList == 'v' :: version.toList.filter (· != '.')

/-- The characters that were there with a version; those of later ones have no age yet. -/
def age? (loose : String) : Option CodeSet :=
  if namesVersion loose "17.0" then none else codesUpTo? (namesVersion loose)

/-- The characters for which a property has a value, as in `gc=Lu` or `script:Greek`. -/
def propertyValue? (name value : List Char) : Option CodeSet :=
  let loose := propertyName value
  match propertyName name with
  | "generalcategory" | "gc" => generalCategory? loose
  | "script" | "sc" => (Script.named? loose.toList).map Script.members
  | "scriptextensions" | "scx" => (Script.named? loose.toList).map Script.users
  | "age" => age? loose
  | "graphemeclusterbreak" | "gcb" => graphemeBreak? loose
  | "wordbreak" | "wb" => wordBreak? loose
  | "sentencebreak" | "sb" => sentenceBreak? loose
  | _ => none

/-! ## 4. POSIX names -/

/-- The POSIX classes, over ASCII. -/
def asciiClass? (name : List Char) : Option CodeSet :=
  match String.ofList name with
  | "alnum" => some (codes "30-39 41-5a 61-7a")
  | "alpha" => some (codes "41-5a 61-7a")
  | "ascii" => some (codes "0-7f")
  | "blank" => some (codes "9 20")
  | "cntrl" => some (codes "0-1f 7f")
  | "digit" => some (codes "30-39")
  | "graph" => some (codes "21-7e")
  | "lower" => some (codes "61-7a")
  | "print" => some (codes "20-7e")
  | "punct" => some (codes "21-2f 3a-40 5b-60 7b-7e")
  | "space" => some (codes "9-d 20")
  | "upper" => some (codes "41-5a")
  | "word" => some (codes "30-39 41-5a 5f 61-7a")
  | "xdigit" => some (codes "30-39 41-46 61-66")
  | _ => none

end DeviceCli.Regex
