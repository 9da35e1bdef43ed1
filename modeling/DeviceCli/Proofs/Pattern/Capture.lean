import DeviceCli.Proofs.Pattern.Pinned

/-!
# Where a pattern is pinned

What is pinned follows from how the first capture is written, whether or not the text around it is a
pattern at all. A text is cut into pieces: characters, escapes and classes, in which no parenthesis
counts, and the parentheses between them.

* `Piece`: a character, an escape, or a class with no class in it;
* `CaptureFree`: pieces, closing parentheses and the heads of groups that are no captures;
* `Balanced`: pieces and groups of any kind, each of them closed;
* `splitFirst_of_capture`: **the scan finds the body of the first capture**;
* `pinned_of_capture`: **what is pinned**, and what it is pinned to again.
-/

namespace DeviceCli.Pattern

open DeviceCli.Regex

/-! ## 1. Pieces -/

/-- What a class has behind its front: members as they are or escaped, up to the bracket that closes
    it. -/
inductive Members : List Char → Prop
  | close : Members [']']
  | char {c s} (hc : c ∉ ['\\', '[', ']']) (h : Members s) : Members (c :: s)
  | escape (c) {s} (h : Members s) : Members ('\\' :: c :: s)

/-- A class with no class in it. At its front there may be a caret, and behind that a closing bracket
    that is a member. -/
inductive ClassText : List Char → Prop
  | positive {s} (h : Members s) (hcaret : s.head? ≠ some '^') (hclose : s.head? ≠ some ']') :
      ClassText ('[' :: s)
  | positiveBracket {s} (h : Members s) : ClassText ('[' :: ']' :: s)
  | negative {s} (h : Members s) (hclose : s.head? ≠ some ']') : ClassText ('[' :: '^' :: s)
  | negativeBracket {s} (h : Members s) : ClassText ('[' :: '^' :: ']' :: s)

/-- A piece of a pattern in which no parenthesis counts. -/
inductive Piece : List Char → Prop
  | char {c} (hc : c ∉ ['\\', '[', '(', ')']) : Piece [c]
  | escape (c) : Piece ['\\', c]
  | bracket {s} (h : ClassText s) : Piece s

theorem Members.pass {s : List Char} (h : Members s) : PinGuard.inClass.pass s = some .free := by
  induction h with
  | close => rfl
  | @char c s hc h ih =>
    simp only [List.mem_cons, List.not_mem_nil, or_false, not_or] at hc
    rw [PinGuard.pass_cons (by decide), PinGuard.step_inClass hc.1 hc.2.2]
    exact ih
  | escape c h ih => exact ih

/-- Members that do not begin with what only the front of a class can have are passed there too. -/
theorem Members.pass_front {s : List Char} (h : Members s) {g : PinGuard}
    (hg : g = .classCaret ∨ g = .classFront ∧ s.head? ≠ some '^') (hclose : s.head? ≠ some ']') :
    g.pass s = some .free := by
  obtain ⟨c, u, rfl⟩ : ∃ c u, s = c :: u := by
    cases h <;> exact ⟨_, _, rfl⟩
  have hcaret : g = .classCaret ∨ g = .classFront ∧ c ≠ '^' :=
    hg.imp_right fun hfront => ⟨hfront.1, fun heq => hfront.2 (congrArg some heq)⟩
  rw [Regex.pass_front hcaret (fun heq => hclose (congrArg some heq))]
  exact h.pass

theorem ClassText.pass {s : List Char} (h : ClassText s) : PinGuard.free.pass s = some .free := by
  cases h with
  | positive h hcaret hclose => exact h.pass_front (.inr ⟨rfl, hcaret⟩) hclose
  | positiveBracket h => exact h.pass
  | negative h hclose => exact h.pass_front (.inl rfl) hclose
  | negativeBracket h => exact h.pass

theorem Piece.pass {s : List Char} (h : Piece s) : PinGuard.free.pass s = some .free := by
  cases h with
  | @char c hc =>
    refine PinGuard.pass_free_of_ne fun d hd => ?_
    obtain rfl := List.mem_singleton.mp hd
    simpa using hc
  | escape c => rfl
  | bracket h => exact h.pass

/-! ## 2. Texts around a capture -/

/-- A text without a capture: in front of the first one nothing is made of where a group ends. -/
inductive CaptureFree : List Char → Prop
  | nil : CaptureFree []
  | piece {a s} (ha : Piece a) (h : CaptureFree s) : CaptureFree (a ++ s)
  | close {s} (h : CaptureFree s) : CaptureFree (')' :: s)
  | head {letters sign s} (hletters : FlagText letters) (hsign : sign = ')' ∨ sign = ':')
      (h : CaptureFree s) : CaptureFree ('(' :: '?' :: (letters ++ [sign]) ++ s)

/-- A text in which groups are closed where they were opened. What tells one kind of group from
    another, such as `?:` or `?P<name>` behind the parenthesis, is made of characters. -/
inductive Balanced : List Char → Prop
  | nil : Balanced []
  | piece {a s} (ha : Piece a) (h : Balanced s) : Balanced (a ++ s)
  | group {inner s} (hinner : Balanced inner) (h : Balanced s) :
      Balanced ('(' :: (inner ++ ')' :: s))

/-- The head of a capture, with a name or without. -/
inductive CaptureHead : List Char → Prop
  | unnamed : CaptureHead ['(']
  | named {head name} (hhead : head = ['?', 'P', '<'] ∨ head = ['?', '<']) (hsign : '>' ∉ name)
      (hequal : name.head? ≠ some '=') (hbang : name.head? ≠ some '!') :
      CaptureHead ('(' :: (head ++ (name ++ ['>'])))

variable {front opening body back before rest s : List Char}

/-- The scan passes a text without a capture. -/
theorem splitFirst_captureFree (h : CaptureFree s) :
    splitFirst .outside .free before (s ++ rest) =
      splitFirst .outside .free (s.reverse ++ before) rest := by
  induction h generalizing before with
  | nil => rfl
  | piece ha h ih =>
    rw [List.append_assoc, splitFirst_pass_outside ha.pass, ih, List.reverse_append,
      List.append_assoc]
  | close h ih =>
    rw [List.cons_append, splitFirst_outside_cons (by decide), List.reverse_cons, List.append_assoc]
    exact ih
  | @head letters sign s hletters hsign h ih =>
    have hhead : (Token.flags []).Text ('(' :: '?' :: (letters ++ [')'])) := .flags hletters
    have hplain : (Token.openGroup (.plain [])).Text ('(' :: '?' :: (letters ++ [':'])) :=
      .plain hletters
    rw [List.append_assoc, List.reverse_append, List.append_assoc]
    rcases hsign with rfl | rfl
    · rw [splitFirst_outside (by rintro _ ⟨⟩) hhead, ih]
    · rw [splitFirst_outside (by rintro _ ⟨⟩) hplain, ih]

/-- It goes over to the body behind the head of a capture. -/
theorem splitFirst_captureHead (h : CaptureHead opening)
    (hrest : opening = ['('] → rest.head? ≠ some '?') :
    splitFirst .outside .free before (opening ++ rest) =
      splitFirst (.body 0) .free (opening.reverse ++ before) rest := by
  cases h with
  | unnamed => exact splitFirst_unnamed (hrest rfl)
  | named hhead hsign hequal hbang => exact splitFirst_named hhead hsign hequal hbang

/-- In the body it passes what is balanced, at any depth. -/
theorem splitFirst_balanced (h : Balanced s) (depth : Nat) :
    splitFirst (.body depth) .free before (s ++ rest) =
      splitFirst (.body depth) .free before rest := by
  induction h generalizing depth rest with
  | nil => rfl
  | piece ha h ih => rw [List.append_assoc, splitFirst_pass_body ha.pass, ih]
  | @group inner s hinner h ihinner ih =>
    have hparts : '(' :: (inner ++ ')' :: s) ++ rest = '(' :: (inner ++ (')' :: (s ++ rest))) := by
      simp
    calc splitFirst (.body depth) .free before ('(' :: (inner ++ ')' :: s) ++ rest)
        = splitFirst (.body (depth + 1)) .free before (inner ++ ')' :: (s ++ rest)) := by
          rw [hparts]
          rfl
      _ = splitFirst (.body (depth + 1)) .free before (')' :: (s ++ rest)) := ihinner _
      _ = splitFirst (.body depth) .free before (s ++ rest) := rfl
      _ = splitFirst (.body depth) .free before rest := ih depth

/-- **The scan finds the body of the first capture.** -/
theorem splitFirst_of_capture (hfront : CaptureFree front) (hopening : CaptureHead opening)
    (hbody : Balanced body) (hmark : opening = ['('] → body.head? ≠ some '?') :
    splitFirst .outside .free [] (front ++ (opening ++ (body ++ ')' :: back))) =
      some (front ++ opening, ')' :: back) := by
  have hrest : opening = ['('] → (body ++ ')' :: back).head? ≠ some '?' := by
    intro heq
    cases body with
    | nil => exact fun h => absurd (Option.some.inj h) (by decide)
    | cons c body => exact hmark heq
  rw [splitFirst_captureFree hfront, splitFirst_captureHead hopening hrest,
    splitFirst_balanced hbody]
  simp [splitFirst]

/-- It finds none in a text without a capture. -/
theorem splitFirst_of_captureFree (h : CaptureFree s) : splitFirst .outside .free [] s = none := by
  rw [← List.append_nil s, splitFirst_captureFree h]
  rfl

/-! ## 3. What is pinned -/

theorem piece_cons_of_not_isMeta {c : Char} (h : isMeta c ≠ true) : Piece [c] := by
  refine .char fun hmem => h ?_
  have hall : ['\\', '[', '(', ')'].all isMeta = true := rfl
  exact List.all_eq_true.mp hall c hmem

/-- An escaped text is a body of its own, whatever characters it has. -/
theorem balanced_escapeChars (text : List Char) : Balanced (escapeChars text) := by
  induction text with
  | nil => exact .nil
  | cons c text ih =>
    rw [escapeChars]
    split
    · exact .piece (.escape c) ih
    · next hmeta => exact .piece (piece_cons_of_not_isMeta hmeta) ih

theorem head?_escapeChars (text : List Char) : (escapeChars text).head? ≠ some '?' := by
  intro h
  refine head?_escaped text [] ?_
  rw [List.head?_append, h]
  rfl

theorem pinnedChars_of_capture (hfront : CaptureFree front) (hopening : CaptureHead opening)
    (hbody : Balanced body) (hmark : opening = ['('] → body.head? ≠ some '?')
    (literal : List Char) :
    pinnedChars (front ++ (opening ++ (body ++ ')' :: back))) literal =
      front ++ (opening ++ (escapeChars literal ++ ')' :: back)) := by
  rw [pinnedChars, splitFirst_of_capture hfront hopening hbody hmark]
  simp

theorem toList_parts (front opening body back : String) :
    (front ++ opening ++ body ++ ")" ++ back).toList =
      front.toList ++ (opening.toList ++ (body.toList ++ ')' :: back.toList)) := by
  simp

/-- **What is pinned.** Where the first capture is written with its head, a balanced body and a
    closing parenthesis, behind a text without a capture, the body gives way to the escaped literal
    and the rest stays as it is. What comes of that is pinned again as the pattern itself is. A text
    without a capture gives way as a whole to the escaped literal in parentheses. -/
theorem pinned_of_capture (p : Pattern) (literal : String) :
    (∀ front opening body back : String,
      p.source = front ++ opening ++ body ++ ")" ++ back →
      CaptureFree front.toList → CaptureHead opening.toList → Balanced body.toList →
      (opening = "(" → body.toList.head? ≠ some '?') →
        p.pinned literal = front ++ opening ++ escape literal ++ ")" ++ back ∧
        ∀ q : Pattern, q.source = p.pinned literal → ∀ again, q.pinned again = p.pinned again) ∧
    (CaptureFree p.source.toList → p.pinned literal = "(" ++ escape literal ++ ")") := by
  constructor
  · intro front opening body back hsource hfront hopening hbody hmark
    -- The same for any body, so that it also says what is pinned again.
    have hpinned : ∀ (q : Pattern) (inner again : String),
        q.source = front ++ opening ++ inner ++ ")" ++ back → Balanced inner.toList →
        (opening = "(" → inner.toList.head? ≠ some '?') →
        q.pinned again = front ++ opening ++ escape again ++ ")" ++ back := by
      intro q inner again hq hinner hfirst
      have hfirst' : opening.toList = ['('] → inner.toList.head? ≠ some '?' := fun heq =>
        hfirst (String.toList_inj.mp heq)
      refine String.toList_inj.mp ?_
      rw [pinned, String.toList_ofList, hq, toList_parts, toList_parts, toList_escape]
      exact pinnedChars_of_capture hfront hopening hinner hfirst' _
    have hone := hpinned p body literal hsource hbody hmark
    refine ⟨hone, fun q hq again => ?_⟩
    have hescaped : Balanced (escape literal).toList := by
      rw [toList_escape]
      exact balanced_escapeChars _
    have hfirst : (escape literal).toList.head? ≠ some '?' := by
      rw [toList_escape]
      exact head?_escapeChars _
    rw [hpinned q (escape literal) again (hq.trans hone) hescaped fun _ => hfirst,
      hpinned p body again hsource hbody hmark]
  · intro hfree
    refine String.toList_inj.mp ?_
    rw [pinned, String.toList_ofList, pinnedChars, splitFirst_of_captureFree hfree]
    simp [toList_escape]

/-- Escaped parentheses, those of a class, and those of a group in the body are passed; a group that
    is no capture is none to be pinned. -/
theorem pinned_of_capture_nested :
    let p : Pattern := ⟨"^\\((?i)[^]()](?P<h>(a|\\))+)#(b)$", default⟩
    let plain : Pattern := ⟨"(?:[)(])", default⟩
    CaptureFree "^\\((?i)[^]()]".toList ∧ CaptureHead "(?P<h>".toList ∧
      Balanced "(a|\\))+".toList ∧ CaptureFree plain.source.toList ∧
      p.pinned "x)" = "^\\((?i)[^]()](?P<h>x\\))#(b)$" ∧
      (∀ q : Pattern, q.source = p.pinned "x)" → ∀ again, q.pinned again = p.pinned again) ∧
      plain.pinned "x)" = "(x\\))" := by
  intro p plain
  have hflag : FlagText ['i'] := by
    intro c hc
    obtain rfl := List.mem_singleton.mp hc
    exact .inl rfl
  have hfront : CaptureFree "^\\((?i)[^]()]".toList :=
    .piece (.char (by decide)) <| .piece (.escape '(') <|
      @CaptureFree.head ['i'] ')' _ hflag (.inl rfl) <|
      .piece (.bracket <| .negativeBracket <| .char (by decide) <| .char (by decide) .close) .nil
  have hopening : CaptureHead "(?P<h>".toList :=
    @CaptureHead.named ['?', 'P', '<'] ['h'] (.inl rfl) (by decide) (by decide) (by decide)
  have hbody : Balanced "(a|\\))+".toList :=
    @Balanced.group ['a', '|', '\\', ')'] ['+']
      (.piece (.char (by decide)) <| .piece (.char (by decide)) <| .piece (.escape ')') .nil)
      (.piece (.char (by decide)) .nil)
  have hplain : CaptureFree "(?:[)(])".toList :=
    @CaptureFree.head [] ':' _ nofun (.inr rfl) <|
      .piece (.bracket <| .positive (.char (by decide) <| .char (by decide) .close) (by decide)
        (by decide)) <| .close .nil
  have hmark : "(?P<h>" = "(" → "(a|\\))+".toList.head? ≠ some '?' := fun h => absurd h (by decide)
  have hsource : p.source = "^\\((?i)[^]()]" ++ "(?P<h>" ++ "(a|\\))+" ++ ")" ++ "#(b)$" := by
    decide +kernel
  obtain ⟨hpinned, hagain⟩ :=
    (pinned_of_capture p "x)").1 _ _ _ _ hsource hfront hopening hbody hmark
  refine ⟨hfront, hopening, hbody, hplain, hpinned.trans ?_, hagain,
    ((pinned_of_capture plain "x)").2 hplain).trans ?_⟩
  · decide +kernel
  · decide +kernel

end DeviceCli.Pattern
