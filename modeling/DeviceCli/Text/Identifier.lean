import DeviceCli.Text.Category

/-!
# Names

The characters that may begin and continue a name: the properties XID_Start and XID_Continue. They
are built on the general categories, with the few additions and exceptions that keep them closed
under compatibility composition.
-/

namespace DeviceCli.Text

/-- Characters that begin names although they are no letters. -/
def startExtras : CodeSet := .ofRanges [⟨0x1885, 0x1886⟩, ⟨0x2118, 0x2118⟩, ⟨0x212E, 0x212E⟩]

/-- Letters that may neither begin nor continue a name. -/
def nameExceptions : CodeSet :=
  .ofRanges [⟨0x37A, 0x37A⟩, ⟨0x2E2F, 0x2E2F⟩, ⟨0xFC5E, 0xFC63⟩, ⟨0xFDFA, 0xFDFB⟩,
    ⟨0xFE70, 0xFE70⟩, ⟨0xFE72, 0xFE72⟩, ⟨0xFE74, 0xFE74⟩, ⟨0xFE76, 0xFE76⟩, ⟨0xFE78, 0xFE78⟩,
    ⟨0xFE7A, 0xFE7A⟩, ⟨0xFE7C, 0xFE7C⟩, ⟨0xFE7E, 0xFE7E⟩]

/-- Letters that may continue a name but not begin one. -/
def startExceptions : CodeSet :=
  .ofRanges [⟨0xE33, 0xE33⟩, ⟨0xEB3, 0xEB3⟩, ⟨0xFF9E, 0xFF9F⟩]

/-- Characters that continue names although their category does not. -/
def continueExtras : CodeSet :=
  .ofRanges [⟨0xB7, 0xB7⟩, ⟨0x387, 0x387⟩, ⟨0x1369, 0x1371⟩, ⟨0x19DA, 0x19DA⟩, ⟨0x200C, 0x200D⟩,
    ⟨0x30FB, 0x30FB⟩, ⟨0xFF65, 0xFF65⟩]

/-- Whether a category is that of a letter or a letter number. -/
def Category.ofNames (k : Category) : Bool := k.group == 'L' || k == ⟨'N', 'l'⟩

/-- Whether a category continues names: besides letters those of marks that combine, of digits and
    of connecting punctuation. -/
def Category.continuesNames (k : Category) : Bool :=
  k.ofNames || k == ⟨'M', 'n'⟩ || k == ⟨'M', 'c'⟩ || k == ⟨'N', 'd'⟩ || k == ⟨'P', 'c'⟩

/-- The characters that names begin with. -/
def nameStarts : CodeSet :=
  (((Category.members Category.ofNames).union startExtras).difference nameExceptions).difference
    startExceptions

/-- The characters that names go on with. -/
def nameRests : CodeSet :=
  (CodeSet.unionAll [Category.members Category.continuesNames, startExtras,
    continueExtras]).difference nameExceptions

/-- Whether a name may begin with a character. -/
def startsIdentifier (c : Char) : Bool :=
  if c.toNat < 128 then isLatinLetter c else nameStarts.has c

/-- Whether a name may go on with a character. -/
def continuesIdentifier (c : Char) : Bool :=
  if c.toNat < 128 then isLatinLetter c || isDigit c || c == '_' else nameRests.has c

end DeviceCli.Text
