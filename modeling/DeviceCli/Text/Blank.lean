/-!
# White space

`isBlank` is the property White_Space: the tab to carriage return block, the space, the next-line
control, the no-break space and the spaces and separators of the higher planes.
`trim` takes blanks off both ends of a text.
-/

namespace DeviceCli.Text

/-- The white space characters. -/
def isBlank (c : Char) : Bool :=
  let n := c.toNat
  (9 ≤ n && n ≤ 13) || n == 0x20 || n == 0x85 || n == 0xA0 || n == 0x1680 ||
    (0x2000 ≤ n && n ≤ 0x200A) || n == 0x2028 || n == 0x2029 || n == 0x202F || n == 0x205F ||
    n == 0x3000

/-- Core's white space is a part of the class. -/
theorem isBlank_of_isWhitespace {c : Char} (h : c.isWhitespace = true) : isBlank c = true := by
  simp only [Char.isWhitespace, Bool.or_eq_true, decide_eq_true_eq] at h
  rcases h with ((rfl | rfl) | rfl) | rfl <;> rfl

/-- Without the leading characters of a class and without the trailing ones. -/
def trimBy (p : Char → Bool) (cs : List Char) : List Char :=
  (((cs.dropWhile p).reverse).dropWhile p).reverse

/-- Without the blanks at both ends. -/
def trim (s : String) : String := String.ofList (trimBy isBlank s.toList)

/-- Whether a text holds nothing but blanks. -/
def isBlankText (cs : List Char) : Bool := cs.all isBlank

end DeviceCli.Text
