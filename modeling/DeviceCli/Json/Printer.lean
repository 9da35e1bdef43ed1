import DeviceCli.Json.Basic

/-!
# Writing JSON

`Json.compact` writes a value without white space. In a string, quotes, backslashes and control
characters are escaped, and nothing else.
-/

namespace DeviceCli.Json

/-- A number below 16 as a hexadecimal digit. -/
def hexChar (n : Nat) : Char := Nat.digitChar n

/-- The letter by which a character is escaped, if it has one. -/
def escapeLetter? : Char → Option Char
  | '\x08' => some 'b'
  | '\x0c' => some 'f'
  | '\n' => some 'n'
  | '\r' => some 'r'
  | '\t' => some 't'
  | '"' => some '"'
  | '\\' => some '\\'
  | _ => none

/-- How a character is written in a string. -/
def escapeChar (c : Char) : List Char :=
  match escapeLetter? c with
  | some letter => ['\\', letter]
  | none =>
    if c.toNat < 32 then ['\\', 'u', '0', '0', hexChar (c.toNat / 16), hexChar (c.toNat % 16)]
    else [c]

/-- A string with its quotes. -/
def writeString (s : String) : List Char := '"' :: s.toList.flatMap escapeChar ++ ['"']

/-- An integer in decimal. -/
def writeInt (n : Int) : List Char :=
  if n < 0 then '-' :: Nat.toDigits 10 n.natAbs else Nat.toDigits 10 n.natAbs

mutual

/-- A value without white space. -/
def write : Json → List Char
  | null => ['n', 'u', 'l', 'l']
  | bool true => ['t', 'r', 'u', 'e']
  | bool false => ['f', 'a', 'l', 's', 'e']
  | int n => writeInt n
  | real x => x.compact.toList
  | string s => writeString s
  | array items => '[' :: writeItems items ++ [']']
  | object members => '\x7b' :: writeMembers members ++ ['\x7d']

/-- Items with commas between them. -/
def writeItems : List Json → List Char
  | [] => []
  | [item] => item.write
  | item :: rest => item.write ++ ',' :: writeItems rest

/-- Members with commas between them. -/
def writeMembers : List (String × Json) → List Char
  | [] => []
  | [(key, value)] => writeString key ++ ':' :: value.write
  | (key, value) :: rest => writeString key ++ ':' :: value.write ++ ',' :: writeMembers rest

end

/-- A value in compact form. -/
def compact (j : Json) : String := String.ofList j.write

end DeviceCli.Json
