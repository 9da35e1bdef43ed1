/-!
# The echo of a command

A device repeats what is typed to it. `removeEchoChars` takes the repetition off the front of an
output, with spaces and the line breaks behind them.
-/

namespace DeviceCli.Screen

/-- Whether a character is a line break. -/
def isBreak (c : Char) : Bool := c == '\r' || c == '\n'

/-- A text without the line breaks at its end. -/
def withoutEndBreaks (s : List Char) : List Char := (s.reverse.dropWhile isBreak).reverse

/-- What is behind `start` in a text that begins with it. -/
def dropStart? : List Char → List Char → Option (List Char)
  | [], s => some s
  | _ :: _, [] => none
  | c :: start, d :: s => if c = d then dropStart? start s else none

/-- The output without the echo of the command. The line breaks that end the command do not
    count. Spaces behind the echo go only if a line break follows them, and then all line breaks
    there go too. -/
def removeEchoChars (output command : List Char) : List Char :=
  match dropStart? (withoutEndBreaks command) output with
  | none => output
  | some rest =>
    let behind := rest.dropWhile (· == ' ')
    if (behind.head?.map isBreak).getD false then behind.dropWhile isBreak else rest

/-- `removeEchoChars` on strings. -/
def dropEcho (output command : String) : String :=
  String.ofList (removeEchoChars output.toList command.toList)

end DeviceCli.Screen
