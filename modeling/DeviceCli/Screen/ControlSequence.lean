import DeviceCli.Text.Category

/-!
# Control sequences

A terminal's control sequences begin with the escape character. `stripControls` reads a text
character by character, in one of a few states, and keeps what belongs to no sequence:

* after `ESC [` all is dropped up to a letter, `@` or a grave accent;
* after `ESC ]` all is dropped up to a bell, or up to an escape and a backslash if one follows it;
* `ESC` with one of `(`, `)`, `*`, `+` is dropped with the character behind it;
* `ESC` with an upper case letter, `=` or `>` is dropped;
* any other `ESC` is dropped alone.
-/

namespace DeviceCli.Screen

open DeviceCli.Text

/-- Where in a control sequence a reader stands. -/
inductive ControlState where
  /-- in plain text -/
  | plain
  /-- behind an escape character -/
  | escape
  /-- among the parameters of a control sequence -/
  | parameters
  /-- in the text of an operating system command -/
  | command
  /-- behind an escape character in such a text -/
  | commandEnd
  /-- before the character that names a character set -/
  | charset
  deriving DecidableEq, Inhabited

/-- The escape character. -/
def escapeChar : Char := '\x1b'

/-- The state behind a character of plain text, and whether the character is kept. -/
def ControlState.ofPlain (c : Char) : ControlState × Bool :=
  if c = escapeChar then (.escape, false) else (.plain, true)

/-- The state behind a character, and whether the character is kept. -/
def ControlState.step : ControlState → Char → ControlState × Bool
  | plain, c => ofPlain c
  | escape, c =>
    if c = '[' then (parameters, false)
    else if c = ']' then (command, false)
    else if c = '(' ∨ c = ')' ∨ c = '*' ∨ c = '+' then (charset, false)
    else if ('A' ≤ c ∧ c ≤ 'Z') ∨ c = '=' ∨ c = '>' then (plain, false)
    else ofPlain c
  | parameters, c =>
    if isLatinLetter c = true ∨ c = '@' ∨ c = '\x60' then (plain, false) else (parameters, false)
  | command, c =>
    if c = '\x07' then (plain, false)
    else if c = escapeChar then (commandEnd, false)
    else (command, false)
  | commandEnd, c => if c = '\\' then (plain, false) else ofPlain c
  | charset, _ => (plain, false)

/-- What a reader in a given state keeps of a text. -/
def keepFrom : ControlState → List Char → List Char
  | _, [] => []
  | state, c :: rest =>
    match state.step c with
    | (state, true) => c :: keepFrom state rest
    | (state, false) => keepFrom state rest

/-- A text without its control sequences. -/
def stripControlChars (text : List Char) : List Char := keepFrom .plain text

/-- `stripControlChars` on strings. -/
def stripControls (text : String) : String := String.ofList (stripControlChars text.toList)

end DeviceCli.Screen
