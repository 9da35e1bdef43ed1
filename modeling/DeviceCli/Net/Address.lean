import DeviceCli.Text.Run

/-!
# Internet addresses

An `Address` is four bytes, or eight groups of sixteen bits. `Address.parse?` reads the usual
notations and `Address.render` writes the canonical one:

* bytes are written in decimal without leading zeros, groups in hexadecimal without them;
* the first longest run of two or more zero groups is written as two colons;
* groups that hold an address of four bytes behind `ffff` are written with those bytes at the end.
-/

namespace DeviceCli

open DeviceCli.Text

/-- An address: four bytes, or eight groups. -/
inductive Address where
  | v4 (bytes : List Nat)
  | v6 (groups : List Nat)
  deriving DecidableEq, Inhabited

namespace Address

/-! ## 1. Reading -/

/-- Takes the digits at the front of a text, but no more than so many and one. -/
def digitsOf (isDigit : Char → Bool) (most : Nat) (cs : List Char) : List Char :=
  (cs.take (most + 1)).takeWhile isDigit

/-- The value of some digits. -/
def digitsValue (base : Nat) (digits : List Char) : Nat :=
  digits.foldl (fun n c => n * base + (hexDigit? c).getD 0) 0

/-- Reads a byte: one to three digits, no leading zero, at most 255. -/
def readByte (cs : List Char) : Option (Nat × List Char) :=
  let digits := digitsOf Char.isDigit 3 cs
  let value := digitsValue 10 digits
  if digits.isEmpty || digits.length > 3 || value > 255 then none
  else if digits.length > 1 && digits.head? == some '0' then none
  else some (value, cs.drop digits.length)

/-- Reads a group: one to four hexadecimal digits. -/
def readGroup (cs : List Char) : Option (Nat × List Char) :=
  let digits := digitsOf (fun c => (hexDigit? c).isSome) 4 cs
  if digits.isEmpty || digits.length > 4 then none
  else some (digitsValue 16 digits, cs.drop digits.length)

/-- Reads so many further bytes, each behind a point. -/
def readBytes : Nat → List Char → Option (List Nat × List Char)
  | 0, cs => some ([], cs)
  | n + 1, '.' :: cs => do
    let (byte, rest) ← readByte cs
    let (bytes, rest) ← readBytes n rest
    pure (byte :: bytes, rest)
  | _ + 1, _ => none

/-- Reads four bytes with points between them. -/
def readV4 (cs : List Char) : Option (List Nat × List Char) := do
  let (byte, rest) ← readByte cs
  let (bytes, rest) ← readBytes 3 rest
  pure (byte :: bytes, rest)

/-- Four bytes as two groups. -/
def groupsOfBytes : List Nat → List Nat
  | [a, b, c, d] => [a * 256 + b, c * 256 + d]
  | _ => []

/-- What a sequence of groups came to: the groups, whether the last two are an address of four
    bytes, and the rest of the text. -/
structure Groups where
  groups : List Nat
  endsInBytes : Bool
  rest : List Char

/-- Reads at most so many groups with colons between them; an address of four bytes in place of two
    groups ends them. `first` tells that no colon is needed in front. -/
def readGroups : Nat → Bool → List Char → Groups
  | 0, _, cs => ⟨[], false, cs⟩
  | n + 1, first, cs =>
    let here := match first, cs with
      | true, cs => some cs
      | false, ':' :: cs => some cs
      | false, _ => none
    match here with
    | none => ⟨[], false, cs⟩
    | some here =>
      match (if n = 0 then none else readV4 here) with
      | some (bytes, rest) => ⟨groupsOfBytes bytes, true, rest⟩
      | none => match readGroup here with
        | some (group, rest) =>
          let more := readGroups n false rest
          ⟨group :: more.groups, more.endsInBytes, more.rest⟩
        | none => ⟨[], false, cs⟩

/-- Reads eight groups; two colons stand for as many zero groups as are missing, at least one. -/
def readV6 (cs : List Char) : Option (List Nat × List Char) :=
  let front := readGroups 8 true cs
  if front.groups.length = 8 then some (front.groups, front.rest)
  else if front.endsInBytes then none
  else match front.rest with
    | ':' :: ':' :: rest =>
      let back := readGroups (7 - front.groups.length) true rest
      let missing := 8 - front.groups.length - back.groups.length
      some (front.groups ++ List.replicate missing 0 ++ back.groups, back.rest)
    | _ => none

/-- The address that a text is, if it is one. -/
def parse? (text : String) : Option Address :=
  match readV4 text.toList with
  | some (bytes, []) => some (v4 bytes)
  | _ => match readV6 text.toList with
    | some (groups, []) => some (v6 groups)
    | _ => none

/-! ## 2. Writing -/

/-- A number in hexadecimal. -/
def hex (n : Nat) : String := String.ofList (Nat.toDigits 16 n)

/-- Bytes with points between them. -/
def renderBytes (bytes : List Nat) : String := ".".intercalate (bytes.map toString)

/-- Groups with colons between them. -/
def renderGroups (groups : List Nat) : String := ":".intercalate (groups.map hex)

/-- The length of the run of zeros at the front. -/
def zeros (groups : List Nat) : Nat := (groups.takeWhile (· == 0)).length

/-- Where the first longest run of zeros begins, counted from `here`, and its length. -/
def longestZeros (here : Nat) : List Nat → Nat × Nat
  | [] => (here, 0)
  | group :: rest =>
    let later := longestZeros (here + 1) rest
    let length := zeros (group :: rest)
    if later.2 ≤ length then (here, length) else later

/-- The canonical notation of an address. -/
def render : Address → String
  | v4 bytes => renderBytes bytes
  | v6 [0, 0, 0, 0, 0, 0xffff, a, b] =>
    "::ffff:" ++ renderBytes [a / 256, a % 256, b / 256, b % 256]
  | v6 groups =>
    let (start, length) := longestZeros 0 groups
    if length > 1 then
      renderGroups (groups.take start) ++ "::" ++ renderGroups (groups.drop (start + length))
    else renderGroups groups

end Address

end DeviceCli
