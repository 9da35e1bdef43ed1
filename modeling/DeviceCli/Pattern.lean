import DeviceCli.Regex.Basic

/-!
# Prompt patterns

A `Pattern` is a compiled regular expression together with the text it was written as: the text is
what a device connection is offered, the compiled form is what is matched here.

* `Pattern.literal` is the pattern of a text as it stands;
* `Pattern.detail?` searches a text and reports the first group;
* `Pattern.pinned` is the written form with the body of its first capture replaced by a literal.
  The capture is found by a scan over characters that knows escapes, classes and the heads of
  groups, and nothing else of the language of patterns.
-/

namespace DeviceCli

open DeviceCli.Regex

/-- A pattern and its written form. -/
structure Pattern where
  source : String
  regex : Regex
  deriving Inhabited

namespace Pattern

/-- Compiles a pattern. -/
def compile (source : String) : Except Regex.Error Pattern :=
  (Regex.compile source).map fun regex => ⟨source, regex⟩

/-- Two patterns are the same if they are written the same. -/
instance : BEq Pattern := ⟨fun a b => a.source == b.source⟩

/-- The pattern that matches a text as it stands. -/
def literal (text : String) : Pattern :=
  match compile (escape text) with
  | .ok p => p
  | .error _ => ⟨escape text, default⟩

/-- Whether the pattern matches somewhere in a text. -/
def isMatch (p : Pattern) (text : String) : Bool := p.regex.isMatch text

/-- The first group of the match in a text: `none` without a match, `some none` for a match in
    which there is no first group. -/
def detail? (p : Pattern) (text : String) : Option (Option String) :=
  (p.regex.find? text).map (·.group? 1)

/-- How many groups the pattern has, the whole match included. -/
def groupCount (p : Pattern) : Nat := p.regex.groupCount

/-! ## 1. The first capture -/

/-- What is behind the first occurrence of a character, and how many characters end with it. -/
def behindFirst? (c : Char) : List Char → Option Nat
  | [] => none
  | d :: rest => if d = c then some 1 else (behindFirst? c rest).map (· + 1)

/-- How many characters the head of a capture has behind its parenthesis, if it is one: none, or
    those of a name. Look-arounds and other groups with a question mark are no captures. -/
def captureHead? : List Char → Option Nat
  | '?' :: 'P' :: '<' :: name => nameLength 3 name
  | '?' :: '<' :: name => nameLength 2 name
  | '?' :: _ => none
  | _ => some 0
where
  /-- The length of a head whose name follows `sofar` characters. -/
  nameLength (sofar : Nat) (name : List Char) : Option Nat :=
    match name with
    | '=' :: _ | '!' :: _ => none
    | _ => (behindFirst? '>' name).map (· + sofar)

/-- Where the scan for a capture stands. -/
inductive PinState where
  /-- before the first capture; how many characters of its head are still to pass -/
  | outside
  /-- in the head of the first capture, with so many characters to go -/
  | head (left : Nat)
  /-- in the body of the first capture, inside so many groups of it -/
  | body (depth : Nat)
  deriving DecidableEq, Inhabited

/-- Where the scan stands with regard to classes and escapes. -/
inductive PinGuard where
  /-- the character counts -/
  | free
  /-- the character is escaped -/
  | escaped (inClass : Bool)
  /-- behind the bracket of a class: a caret or a closing bracket is a member -/
  | classFront
  /-- behind the caret of a class: a closing bracket is a member -/
  | classCaret
  /-- among the members of a class -/
  | inClass
  deriving DecidableEq, Inhabited

/-- The guard behind a character that is not the parenthesis of a group. -/
def PinGuard.step : PinGuard → Char → PinGuard
  | free, c => if c = '\\' then escaped false else if c = '[' then classFront else free
  | escaped true, _ => inClass
  | escaped false, _ => free
  | classFront, c =>
    if c = '^' then classCaret
    else if c = ']' then inClass
    else if c = '\\' then escaped true
    else inClass
  | classCaret, c => if c = ']' then inClass else if c = '\\' then escaped true else inClass
  | inClass, c => if c = '\\' then escaped true else if c = ']' then free else inClass

/-- The characters of a pattern that are in front of the body of its first capture, and those
    from the end of the body on; `none` if there is no capture that closes. `before` are the
    characters passed so far that stand in front of the body, latest first. -/
def splitFirst (state : PinState) (guard : PinGuard) (before : List Char) :
    List Char → Option (List Char × List Char)
  | [] => none
  | c :: rest =>
    match state with
    | .head 0 => -- not reached: a head with nothing to go is a body
      splitFirst (.body 0) guard before rest
    | .head (n + 1) =>
      splitFirst (if n = 0 then .body 0 else .head n) .free (c :: before) rest
    | .outside =>
      if guard = .free ∧ c = '(' then
        match captureHead? rest with
        | some 0 => splitFirst (.body 0) .free (c :: before) rest
        | some n => splitFirst (.head n) .free (c :: before) rest
        | none => splitFirst .outside .free (c :: before) rest
      else splitFirst .outside (guard.step c) (c :: before) rest
    | .body depth =>
      if guard = .free ∧ c = '(' then splitFirst (.body (depth + 1)) .free before rest
      else if guard = .free ∧ c = ')' then
        match depth with
        | 0 => some (before.reverse, c :: rest)
        | n + 1 => splitFirst (.body n) .free before rest
      else splitFirst (.body depth) (guard.step c) before rest

/-- The written form with the body of the first capture replaced by a literal; without a capture,
    the literal as a group. -/
def pinnedChars (source literal : List Char) : List Char :=
  match splitFirst .outside .free [] source with
  | some (front, back) => front ++ escapeChars literal ++ back
  | none => '(' :: escapeChars literal ++ [')']

/-- `pinnedChars` on strings. -/
def pinned (p : Pattern) (literal : String) : String :=
  String.ofList (pinnedChars p.source.toList literal.toList)

end Pattern

end DeviceCli
