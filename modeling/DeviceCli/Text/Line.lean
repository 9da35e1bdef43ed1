/-!
# Lines

Three ways to cut a text into lines:

* `splitBy` cuts at every character of a class and keeps what is between, empty pieces too;
* `breakLines` cuts at maximal runs of carriage returns and newlines, and keeps an empty first or
  last piece;
* `rows` cuts at newlines, takes one carriage return before each, and has no row behind a final
  newline.

`joinWith` puts pieces together again.
-/

namespace DeviceCli.Text

/-- The pieces between the characters of a class. -/
def splitBy (p : Char → Bool) : List Char → List (List Char)
  | [] => [[]]
  | c :: rest =>
    if p c then [] :: splitBy p rest
    else match splitBy p rest with
      | [] => [[c]]
      | piece :: more => (c :: piece) :: more

/-- The pieces with a separator between them. -/
def joinWith (sep : List Char) : List (List Char) → List Char
  | [] => []
  | [piece] => piece
  | piece :: more => piece ++ sep ++ joinWith sep more

/-- Without the empty pieces, but the last one is kept. -/
def keepLast : List (List Char) → List (List Char)
  | [] => []
  | [piece] => [piece]
  | piece :: more => if piece.isEmpty then keepLast more else piece :: keepLast more

/-- Without the empty pieces between the first and the last. -/
def dropInnerEmpty : List (List Char) → List (List Char)
  | [] => []
  | piece :: more => piece :: keepLast more

/-- Whether a character breaks a line. -/
def breaksLine (c : Char) : Bool := c == '\r' || c == '\n'

/-- The lines between maximal runs of carriage returns and newlines. -/
def breakLines (text : List Char) : List (List Char) := dropInnerEmpty (splitBy breaksLine text)

/-- Without one carriage return at the end. -/
def dropEndReturn (row : List Char) : List Char :=
  match row.reverse with
  | '\r' :: before => before.reverse
  | _ => row

/-- The rows of a list of pieces that were separated by newlines. -/
def rowsOf : List (List Char) → List (List Char)
  | [] => []
  | [last] => if last.isEmpty then [] else [last]
  | piece :: more => dropEndReturn piece :: rowsOf more

/-- The rows of a text: a newline ends a row, together with a carriage return before it. -/
def rows (text : List Char) : List (List Char) := rowsOf (splitBy (· == '\n') text)

end DeviceCli.Text
