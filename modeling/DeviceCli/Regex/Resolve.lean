import DeviceCli.Text.Case
import DeviceCli.Regex.Parser
import DeviceCli.Regex.Node

/-!
# Applying the flags of a pattern

`Expr.resolve` turns an expression into a node: flags are applied, classes become sets, and the
node is put together in simple form.

Without Unicode a class is one of bytes. Since texts hold characters only, such a class must keep
to ASCII wherever it is complemented or folded.
-/

namespace DeviceCli.Regex

open DeviceCli.Text

/-! ## 1. Classes -/

/-- Adds the characters that fold to a member, if letters are to match in any case. -/
def foldIf (f : Flags) (s : CodeSet) : CodeSet :=
  if f.anyCase then (if f.unicode then s.folded else s.latinFolded) else s

/-- Complements a set if asked to. -/
def negateIf (negated : Bool) (s : CodeSet) : CodeSet := if negated then s.complement else s

/-- A set that was folded and complemented; without Unicode it must keep to ASCII. -/
def checked (f : Flags) (s : CodeSet) : Except Problem CodeSet :=
  if !f.unicode && !s.isAscii then throw .notUnicode else pure s

/-- The class of a letter such as `d`, of Unicode or of ASCII. -/
def ShortClass.members (unicode : Bool) : ShortClass → CodeSet
  | digit => if unicode then digitCodes else codes "30-39"
  | space => if unicode then spaceCodes else codes "9-d 20"
  | word => if unicode then wordCodes else codes "30-39 41-5a 5f 61-7a"

/-- The members of a class as written. -/
def SetSyntax.resolve (f : Flags) : SetSyntax → Except Problem CodeSet
  | .empty => pure .empty
  | .range first last =>
    if !f.unicode && last.toNat > 127 then throw .notUnicode
    else pure (.range first.toNat last.toNat)
  | .short negated kind => checked f (negateIf negated (kind.members f.unicode))
  | .ascii negated members => checked f (negateIf negated (foldIf f members))
  | .property negated members =>
    if f.unicode then pure (negateIf negated (foldIf f members)) else throw .notUnicode
  | .union a b => do pure ((← a.resolve f).union (← b.resolve f))
  | .bracket negated inner => do checked f (negateIf negated (foldIf f (← inner.resolve f)))
  | .binary op a b => do
    let a := foldIf f (← a.resolve f)
    let b := foldIf f (← b.resolve f)
    pure (match op with
      | .intersection => a.inter b
      | .difference => a.difference b
      | .symmetricDifference => a.symmetricDifference b)

/-- What a literal character matches. -/
def charNode (f : Flags) (c : Char) : Node :=
  if f.anyCase then
    if f.unicode then .ofSet (.ofCodes (c.toNat :: foldPartners c.toNat))
    else if c.toNat < 128 then .ofSet (CodeSet.single c.toNat).latinFolded
    else .literal [c]
  else .literal [c]

/-- What a dot matches. -/
def dotSet (f : Flags) : Except Problem CodeSet :=
  if !f.unicode then throw .notUnicode
  else if f.dotAll then pure .all
  else if f.crlf then pure (codes "a d").complement
  else pure (codes "a").complement

/-- The position that an anchor asks for. -/
def Anchor.look (f : Flags) : Anchor → Look
  | caret => if f.multiLine then (if f.crlf then .crlfStart else .lineStart) else .textStart
  | dollar => if f.multiLine then (if f.crlf then .crlfEnd else .lineEnd) else .textEnd
  | textStart => .textStart
  | textEnd => .textEnd
  | boundary => .boundary f.unicode
  | notBoundary => .notBoundary f.unicode
  | wordStart => .wordStart f.unicode
  | wordEnd => .wordEnd f.unicode
  | wordStartHalf => .wordStartHalf f.unicode
  | wordEndHalf => .wordEndHalf f.unicode

/-! ## 2. Expressions -/

/-- The alternatives of an expression with its flags applied, and the flags in force behind it.
    Flags that stand alone hold to the end of the group they are in, across its alternatives. -/
def Expr.resolveBranches : Flags → Expr → Except Problem (List Node × Flags)
  | f, .empty => pure ([.empty], f)
  | f, .flags items => pure ([.empty], f.applyAll items)
  | f, .char c => pure ([charNode f c], f)
  | f, .byte c => if f.unicode then pure ([charNode f c], f) else throw .notUnicode
  | f, .dot => do pure ([.ofSet (← dotSet f)], f)
  | f, .anchor a => pure ([.look (a.look f)], f)
  | f, .set s => do pure ([.ofSet (← s.resolve f)], f)
  | f, .repeats count greedy body => do
    let (nodes, after) ← body.resolveBranches f
    pure ([.repetition count (greedy != f.lazyFirst) (.alternation nodes)], after)
  | f, .capture index body => do
    let (nodes, _) ← body.resolveBranches f
    pure ([.capture index (.alternation nodes)], f)
  | f, .group items body => do
    let (nodes, _) ← body.resolveBranches (f.applyAll items)
    pure ([.alternation nodes], f)
  | f, .seq a b => do
    let (first, f) ← a.resolveBranches f
    let (second, f) ← b.resolveBranches f
    pure ([(Node.alternation first).concat (.alternation second)], f)
  | f, .alt a b => do
    let (first, f) ← a.resolveBranches f
    let (second, f) ← b.resolveBranches f
    pure (first ++ second, f)

/-- The pattern with its flags applied. -/
def Expr.resolve (f : Flags) (e : Expr) : Except Problem Node := do
  let (nodes, _) ← e.resolveBranches f
  pure (.alternation nodes)

end DeviceCli.Regex
