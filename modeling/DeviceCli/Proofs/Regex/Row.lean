import DeviceCli.Proofs.Regex.Class

/-!
# Patterns as rows of tokens

A pattern is evident if nothing in it hides where its groups begin and end: white space and
comments count everywhere in it, there is no class within a class, and no name has a bracket. Such
a pattern is read token by token, with no memory but of how many groups are open.

* `Token.Text`: what a token is read from, as far as the scan for a capture is concerned;
* `Row`: tokens in a row, each read from the front of what is left;
* `tokenize_eq_ok_iff`: **an evident pattern has the tokens of its row**;
* `Row.literal`: an escaped text is a row of its characters.
-/

namespace DeviceCli.Regex

open DeviceCli.Text DeviceCli.Pattern

/-! ## 1. Tokens -/

/-- Whether a token leaves it open where the groups of its pattern begin and end. -/
def Token.isEvident : Token → Bool
  | .flags items => verboseSetting items != some true
  | .openGroup (.plain items) => verboseSetting items != some true
  | .openGroup (.capture (some name)) => !name.contains '['
  | .set s => s.isPlain
  | _ => true

/-- Whether a token neither opens nor closes a group, nor sets flags. -/
def Token.isLeaf : Token → Bool
  | .flags _ => false
  | .openGroup _ => false
  | .close => false
  | _ => true

/-- The letters of flags. -/
def FlagText (letters : List Char) : Prop := ∀ c ∈ letters, isFlagLetter c = true ∨ c = '-'

/-- What tokens are read from. -/
inductive Token.Text : Token → List Char → Prop
  | leaf {t : Token} {text : List Char} : t.isLeaf = true → text ≠ [] →
      PinGuard.free.pass text = some .free → Text t text
  | close : Text .close [')']
  | flags {items : List FlagItem} {letters : List Char} : FlagText letters →
      Text (.flags items) ('(' :: '?' :: (letters ++ [')']))
  | plain {items : List FlagItem} {letters : List Char} : FlagText letters →
      Text (.openGroup (.plain items)) ('(' :: '?' :: (letters ++ [':']))
  | capture : Text (.openGroup (.capture none)) ['(']
  | named {name : List Char} {head : List Char} : head = ['?', 'P', '<'] ∨ head = ['?', '<'] →
      isGroupName name = true →
      Text (.openGroup (.capture (some name))) ('(' :: (head ++ (name ++ ['>'])))

theorem Token.Text.ne_nil {t : Token} {text : List Char} (h : t.Text text) : text ≠ [] := by
  cases h with
  | leaf _ hne => exact hne
  | close | flags | plain | capture | named => exact List.cons_ne_nil _ _

/-! ## 2. Groups -/

theorem flagText_of_readFlags {on : Bool} {seen letters : List Char} {items : List FlagItem}
    (h : readFlags on seen letters = .ok items) : FlagText letters := by
  induction letters generalizing on seen items with
  | nil => exact nofun
  | cons c rest ih =>
    unfold readFlags at h
    split at h
    · next heq => cases heq
    · next heq =>
      cases heq
      split at h
      · cases h
      · exact List.forall_mem_cons.mpr ⟨.inr rfl, ih h⟩
    · next heq =>
      cases heq
      split at h
      · cases h
      · next hc =>
        obtain ⟨items, hrest, -⟩ := Except.bind_eq_ok_iff.mp h
        rw [Bool.or_eq_true, not_or] at hc
        exact List.forall_mem_cons.mpr ⟨.inl (by simpa using hc.1), ih hrest⟩

theorem FlagText.inert {letters : List Char} (h : FlagText letters) : Inert letters := fun c hc => by
  cases hinert : isInert c with
  | true => rfl
  | false =>
    rcases eq_of_not_inert hinert with rfl | rfl | rfl | rfl | rfl <;>
      exact absurd (h _ hc) (by decide)

/-- What names are made of means nothing outside a class but for an opening bracket. -/
theorem isNameChar_of_mem {name : List Char} (h : isGroupName name = true) :
    ∀ c ∈ name, isNameChar false c = true := by
  cases name with
  | nil => cases h
  | cons c rest =>
    obtain ⟨hfirst, hrest⟩ := Bool.and_eq_true_iff.mp h
    refine List.forall_mem_cons.mpr ⟨?_, List.all_eq_true.mp hrest⟩
    simp only [isNameChar, if_true, Bool.or_eq_true] at hfirst
    simp only [isNameChar, isAlphanumeric, Bool.false_eq_true, if_false, Bool.or_eq_true]
    rcases hfirst with hfirst | hfirst
    · exact .inl (.inl (.inl (.inl hfirst)))
    · exact .inr (.inl hfirst)

/-- The head of a capture without a name is nothing. -/
theorem lexGroup_of_head {s : List Char} (h : s.head? ≠ some '?') :
    lexGroup false s = .ok (.inl (.capture none), s) := by
  unfold lexGroup
  rw [skip_false]
  split
  case h_8 => rfl
  all_goals exact absurd rfl h

theorem lexGroup_of_name {head : List Char} (hhead : head = ['?', 'P', '<'] ∨ head = ['?', '<'])
    {name : List Char} (hname : isGroupName name = true) (rest : List Char) :
    lexGroup false (head ++ (name ++ '>' :: rest)) = .ok (.inl (.capture (some name)), rest) := by
  have hmem := isNameChar_of_mem hname
  have hsign : ∀ c ∈ name, (c != '>') = true := fun c hc => by
    refine bne_iff_ne.mpr ?_
    rintro rfl
    exact absurd (hmem _ hc) (by decide)
  have hread : lexName (name ++ '>' :: rest) = .ok (.inl (.capture (some name)), rest) := by
    rw [lexName, List.takeWhile_append_of_pos hsign, List.dropWhile_append_of_pos hsign]
    simp only [List.takeWhile_cons, List.dropWhile_cons, bne_self_eq_false, Bool.false_eq_true,
      if_false, List.append_nil]
    rw [if_pos hname]
    rfl
  rcases hhead with rfl | rfl
  · exact hread
  · obtain ⟨c, more, rfl⟩ : ∃ c more, name = c :: more := by
      cases name with
      | nil => cases hname
      | cons c more => exact ⟨c, more, rfl⟩
    have hc := hmem c List.mem_cons_self
    rw [← hread]
    unfold lexGroup
    rw [skip_false]
    split
    case h_1 heq | h_2 heq | h_5 heq => cases heq
    case h_3 heq | h_4 heq =>
      cases heq
      exact absurd hc (by decide)
    case h_6 heq =>
      cases heq
      rfl
    case h_7 hno heq =>
      cases heq
      exact (hno _ rfl).elim
    case h_8 hno => exact (hno _ rfl).elim

theorem lexGroup_of_flags {s : List Char}
    (h : ∀ c ∈ s.head?, isFlagLetter c = true ∨ c = '-' ∨ c = ')' ∨ c = ':') :
    lexGroup false ('?' :: s) = lexFlags s := by
  unfold lexGroup
  rw [skip_false]
  split
  case h_7 heq =>
    cases heq
    rfl
  case h_8 hmark => exact absurd rfl (hmark s)
  all_goals
    next heq =>
    cases heq
    exact absurd (h _ rfl) (by decide)

/-- What flags are read from: letters, and the sign of a group or the end of what stands alone. -/
theorem lexFlags_eq_ok {s rest : List Char} {group : GroupKind ⊕ List FlagItem}
    (h : lexFlags s = .ok (group, rest)) :
    ∃ items letters sign, FlagText letters ∧ s = letters ++ sign :: rest ∧
      (sign = ')' ∧ group = .inr items ∨ sign = ':' ∧ group = .inl (.plain items)) ∧
      ∀ rest', lexGroup false ('?' :: (letters ++ sign :: rest')) = .ok (group, rest') := by
  obtain ⟨items, hitems, hbody⟩ := Except.bind_eq_ok_iff.mp h
  have hflags := flagText_of_readFlags hitems
  have hshape : ∃ sign, (s.dropWhile fun c => c != ':' && c != ')') = sign :: rest ∧
      (sign = ')' ∧ group = .inr items ∨ sign = ':' ∧ group = .inl (.plain items)) := by
    dsimp only at hbody
    split at hbody
    · next hafter =>
      split at hbody
      · cases hbody
      · cases hbody
        exact ⟨_, hafter, .inl ⟨rfl, rfl⟩⟩
    · next sign after hclose hafter =>
      cases hbody
      have hnot := List.head?_dropWhile_not (fun c => c != ':' && c != ')') s
      rw [hafter] at hnot
      have hsign : sign = ':' := by
        simp only [List.head?_cons, Bool.and_eq_false_imp, bne_iff_ne] at hnot
        exact Decidable.byContradiction fun hne => hclose (by simpa using hnot hne)
      exact ⟨_, hafter, .inr ⟨hsign, rfl⟩⟩
    · cases hbody
  obtain ⟨sign, hafter, hgroup⟩ := hshape
  refine ⟨items, _, sign, hflags, ?_, hgroup, fun rest' => ?_⟩
  · rw [← hafter, List.takeWhile_append_dropWhile]
  · have hbegin : ∀ c ∈ ((s.takeWhile fun c => c != ':' && c != ')') ++ sign :: rest').head?,
        isFlagLetter c = true ∨ c = '-' ∨ c = ')' ∨ c = ':' := by
      generalize (s.takeWhile fun c => c != ':' && c != ')') = letters at hflags
      cases letters with
      | nil =>
        rintro c ⟨⟩
        exact .inr (.inr (hgroup.imp And.left And.left))
      | cons d more =>
        rintro c ⟨⟩
        exact (hflags d List.mem_cons_self).imp_right .inl
    have hhead : (sign :: rest').head? =
        (s.dropWhile fun c => c != ':' && c != ')').head? := by
      rw [hafter]
      rfl
    obtain ⟨htake, hdrop⟩ := span_of_head? (fun c => c != ':' && c != ')') s hhead
    rw [lexGroup_of_flags hbegin]
    refine Except.bind_eq_ok_iff.mpr ⟨items, by rw [htake]; exact hitems, ?_⟩
    rw [hdrop, htake]
    rcases hgroup with ⟨rfl, rfl⟩ | ⟨rfl, rfl⟩
    · rw [hafter] at hbody
      cases hempty : (s.takeWhile fun c => c != ':' && c != ')').isEmpty with
      | true =>
        simp only [hempty] at hbody
        cases hbody
      | false => rfl
    · rfl

/-- A name is read up to the sign that ends it. -/
theorem lexName_eq_ok {s rest : List Char} {group : GroupKind ⊕ List FlagItem}
    (h : lexName s = .ok (group, rest)) :
    ∃ name, group = .inl (.capture (some name)) ∧ isGroupName name = true ∧
      s = name ++ '>' :: rest := by
  rw [lexName] at h
  split at h
  · next sign after hafter =>
    split at h
    · next hname =>
      cases h
      have hsign : sign = '>' := by
        have hnot := List.head?_dropWhile_not (· != '>') s
        rw [hafter] at hnot
        simpa using hnot
      subst hsign
      refine ⟨_, rfl, hname, ?_⟩
      rw [← hafter, List.takeWhile_append_dropWhile]
    · cases h
  · cases h

/-- What a group's head is read from. -/
theorem lexGroup_eq_ok {s rest : List Char} {group : GroupKind ⊕ List FlagItem}
    (h : lexGroup false s = .ok (group, rest)) :
    (∃ items letters, group = .inr items ∧ FlagText letters ∧ s = '?' :: (letters ++ ')' :: rest) ∧
      ∀ rest', lexGroup false ('?' :: (letters ++ ')' :: rest')) = .ok (group, rest')) ∨
    (∃ items letters, group = .inl (.plain items) ∧ FlagText letters ∧
      s = '?' :: (letters ++ ':' :: rest) ∧
      ∀ rest', lexGroup false ('?' :: (letters ++ ':' :: rest')) = .ok (group, rest')) ∨
    (group = .inl (.capture none) ∧ s = rest ∧ s.head? ≠ some '?') ∨
    ∃ name head, group = .inl (.capture (some name)) ∧ (head = ['?', 'P', '<'] ∨ head = ['?', '<']) ∧
      isGroupName name = true ∧ s = head ++ (name ++ '>' :: rest) := by
  unfold lexGroup at h
  rw [skip_false] at h
  split at h
  case h_1 | h_2 | h_3 | h_4 => cases h
  case h_5 =>
    obtain ⟨name, rfl, hname, rfl⟩ := lexName_eq_ok h
    exact .inr (.inr (.inr ⟨name, _, rfl, .inl rfl, hname, rfl⟩))
  case h_6 =>
    obtain ⟨name, rfl, hname, rfl⟩ := lexName_eq_ok h
    exact .inr (.inr (.inr ⟨name, _, rfl, .inr rfl, hname, rfl⟩))
  case h_7 =>
    obtain ⟨items, letters, sign, hflags, rfl, hgroup, hagain⟩ := lexFlags_eq_ok h
    rcases hgroup with ⟨rfl, rfl⟩ | ⟨rfl, rfl⟩
    · exact .inl ⟨items, letters, rfl, hflags, rfl, hagain⟩
    · exact .inr (.inl ⟨items, letters, rfl, hflags, rfl, hagain⟩)
  case h_8 hmark =>
    cases h
    refine .inr (.inr (.inl ⟨rfl, rfl, fun hhead => ?_⟩))
    obtain ⟨r, rfl⟩ := List.head?_eq_some_iff.mp hhead
    exact hmark r rfl

/-! ## 3. Reading a token -/

/-- A repetition is read with the mark of the shortest, if that is there. -/
theorem reads_lexRepeat (count : Count) :
    Reads (fun s => pure (lexRepeat count s)) fun t taken => t.isLeaf = true ∧ Inert taken := by
  intro s t rest h
  unfold lexRepeat lexGreed at h
  dsimp only at h
  split at h
  · cases h
    exact ⟨['?'], rfl, ⟨rfl, by decide⟩, fun rest' _ => rfl⟩
  · next hmark =>
    cases h
    refine ⟨[], rfl, ⟨rfl, nofun⟩, fun rest' hrest' => ?_⟩
    obtain ⟨c, r, r', rfl, rfl, -⟩ := hrest'.cases
    unfold lexRepeat lexGreed
    dsimp only
    split
    · next heq =>
      cases heq
      exact (hmark r rfl).elim
    · rfl

/-- A counted repetition, with the mark of the shortest. -/
theorem reads_lexCounted :
    Reads (fun s => do
      let (count, after) ← lexCount false s
      pure (lexRepeat count (skip false after)))
      fun t taken => t.isLeaf = true ∧ Inert taken := by
  intro s t rest h
  obtain ⟨⟨count, after⟩, hcount, hrepeat⟩ := Except.bind_eq_ok_iff.mp h
  obtain ⟨inside, rfl, hinside, hagain⟩ := lexCount_eq_ok hcount
  obtain ⟨greed, rfl, ⟨hleaf, hgreed⟩, hagain'⟩ := reads_lexRepeat count _ _ _ hrepeat
  refine ⟨inside ++ '\x7d' :: greed, by simp, ⟨hleaf, ?_⟩, fun rest' hrest' => ?_⟩
  · exact inert_append.mpr ⟨hinside, inert_cons.mpr ⟨rfl, hgreed⟩⟩
  · rw [List.append_assoc, List.cons_append]
    exact Except.bind_eq_ok_iff.mpr ⟨_, hagain _, hagain' _ hrest'⟩

/-- The characters that begin a token which is not them. -/
def marks : List Char := ['(', ')', '|', '[', '?', '*', '+', '\x7b', '.', '^', '$', '\\']

theorem lexToken_of_not_mem {c : Char} (hc : c ∉ marks) (rest : List Char) :
    lexToken false (c :: rest) = .ok (.char c, rest) := by
  unfold lexToken
  split
  case h_14 heq =>
    cases heq
    rfl
  case h_1 heq => cases heq
  all_goals
    next heq =>
    cases heq
    exact absurd hc (by decide)

theorem isLeaf_token (e : Escape) : e.token.isLeaf = true := by
  cases e <;> rfl

/-- A token that opens a capture is read from its text, if no question mark is behind it. -/
theorem lexToken_of_capture {name : Option (List Char)} {text rest : List Char}
    (h : (Token.openGroup (.capture name)).Text text) (hrest : rest.head? ≠ some '?') :
    lexToken false (text ++ rest) = .ok (.openGroup (.capture name), rest) := by
  cases h with
  | leaf hleaf => cases hleaf
  | capture =>
    rw [List.singleton_append, lexToken, lexGroup_of_head hrest]
    rfl
  | named hhead hname =>
    rw [List.cons_append, List.append_assoc, List.append_assoc, List.singleton_append, lexToken,
      lexGroup_of_name hhead hname]
    rfl

/-- A text is that of a token and the rest behind it, and the token is read again from it where what
    is behind agrees. -/
def Token.From (t : Token) (s rest : List Char) : Prop :=
  ∃ text, s = text ++ rest ∧ t.Text text ∧
    (t = .openGroup (.capture none) → rest.head? ≠ some '?') ∧
    ∀ rest', Agree rest rest' → lexToken false (text ++ rest') = .ok (t, rest')

variable {s rest : List Char} {t : Token}

/-- A token of a mark that is inert and what is read behind it. -/
theorem from_mark {c : Char} {read : List Char → Except Problem (Token × List Char)}
    (hc : isInert c = true) (hread : ∀ s, lexToken false (c :: s) = read s)
    (hreads : Reads read fun t taken => t.isLeaf = true ∧ Inert taken)
    (h : read s = .ok (t, rest)) : t.From (c :: s) rest := by
  obtain ⟨taken, rfl, ⟨hleaf, hinert⟩, hagain⟩ := hreads _ _ _ h
  refine ⟨c :: taken, rfl, .leaf hleaf (List.cons_ne_nil _ _)
    (PinGuard.pass_free (inert_cons.mpr ⟨hc, hinert⟩)), ?_, fun rest' hrest' => ?_⟩
  · rintro rfl
    cases hleaf
  · rw [List.cons_append, hread]
    exact hagain rest' hrest'

/-- A mark behind which nothing is read. -/
theorem reads_mark (h : t.isLeaf = true) :
    Reads (fun s => pure (t, s)) fun t taken => t.isLeaf = true ∧ Inert taken := by
  rintro s t' rest ⟨⟩
  exact ⟨[], rfl, ⟨h, nofun⟩, fun rest' _ => rfl⟩

theorem from_group {group : GroupKind ⊕ List FlagItem}
    (h : lexGroup false s = .ok (group, rest)) :
    (group.elim .openGroup .flags : Token).From ('(' :: s) rest := by
  rcases lexGroup_eq_ok h with ⟨items, letters, rfl, hflags, rfl, hagain⟩ |
    ⟨items, letters, rfl, hflags, rfl, hagain⟩ | ⟨rfl, rfl, hhead⟩ |
    ⟨name, head, rfl, hhead, hname, rfl⟩
  · refine ⟨_, by simp, .flags hflags, nofun, fun rest' _ => ?_⟩
    rw [List.cons_append, List.cons_append, List.append_assoc, List.singleton_append, lexToken,
      hagain rest']
    rfl
  · refine ⟨_, by simp, .plain hflags, nofun, fun rest' _ => ?_⟩
    rw [List.cons_append, List.cons_append, List.append_assoc, List.singleton_append, lexToken,
      hagain rest']
    rfl
  · exact ⟨_, rfl, .capture, fun _ => hhead, fun rest' hrest' =>
      lexToken_of_capture .capture (hrest'.head?_eq ▸ hhead)⟩
  · refine ⟨'(' :: (head ++ (name ++ ['>'])), by simp, .named hhead hname, nofun,
      fun rest' _ => ?_⟩
    rw [List.cons_append, List.append_assoc, List.append_assoc, List.singleton_append, lexToken,
      lexGroup_of_name hhead hname]
    rfl

theorem from_bracket {set : SetSyntax} (hset : set.isPlain = true)
    (h : lexBracket false s = .ok (set, rest)) : (Token.set set).From ('[' :: s) rest := by
  obtain ⟨taken, rfl, hpass, hagain⟩ := lexBracket_eq_ok hset h
  refine ⟨'[' :: taken, rfl, .leaf rfl (List.cons_ne_nil _ _) hpass, nofun, fun rest' _ => ?_⟩
  rw [List.cons_append, lexToken, hagain rest']
  rfl

theorem from_escape {item : Escape} (h : lexEscape false s = .ok (item, rest)) :
    item.token.From ('\\' :: s) rest := by
  obtain ⟨taken, rfl, ⟨c, more, rfl, hinert⟩, hagain⟩ := reads_lexEscape _ _ _ h
  have hleaf := isLeaf_token item
  refine ⟨'\\' :: c :: more, rfl, .leaf hleaf (List.cons_ne_nil _ _) ?_, ?_, fun rest' hrest' => ?_⟩
  · have hslash : PinGuard.free.pass ('\\' :: c :: more) =
        (PinGuard.escaped false).pass (c :: more) := rfl
    rw [hslash, PinGuard.pass_cons (by decide)]
    exact PinGuard.pass_free hinert
  · intro htoken
    rw [htoken] at hleaf
    cases hleaf
  · rw [List.cons_append, lexToken, hagain rest' hrest']
    rfl

/-- A character that is no mark stands for itself. -/
theorem from_char {c : Char} (h : c ∉ marks) : (Token.char c).From (c :: rest) rest := by
  refine ⟨[c], rfl, .leaf rfl (List.cons_ne_nil _ _) ?_, nofun, fun rest' _ =>
    lexToken_of_not_mem h rest'⟩
  have hne : ∀ d ∈ marks, c ≠ d := fun d hd hcd => h (hcd ▸ hd)
  have hstep : PinGuard.free.step c = .free :=
    (if_neg (hne _ (by decide))).trans (if_neg (hne _ (by decide)))
  rw [PinGuard.pass, if_neg fun hc => hc.2.elim (hne _ (by decide)) (hne _ (by decide)), hstep]
  rfl

/-- **What a token is read from**, and that it is read again where what is behind agrees. -/
theorem lexToken_eq_ok (ht : t.isEvident = true) (h : lexToken false s = .ok (t, rest)) :
    t.From s rest := by
  unfold lexToken at h
  split at h
  case h_1 => cases h
  case h_2 =>
    obtain ⟨⟨group, after⟩, hgroup, hpair⟩ := Except.bind_eq_ok_iff.mp h
    cases group with
    | inl | inr =>
      cases hpair
      exact from_group hgroup
  case h_3 =>
    cases h
    exact ⟨_, rfl, .close, nofun, fun rest' _ => rfl⟩
  case h_5 =>
    obtain ⟨⟨set, after⟩, hset, hpair⟩ := Except.bind_eq_ok_iff.mp h
    cases hpair
    exact from_bracket ht hset
  case h_4 | h_10 | h_11 | h_12 => exact from_mark rfl (fun _ => rfl) (reads_mark rfl) h
  case h_6 | h_7 | h_8 => exact from_mark rfl (fun _ => rfl) (reads_lexRepeat _) h
  case h_9 => exact from_mark rfl (fun _ => rfl) reads_lexCounted h
  case h_13 =>
    obtain ⟨⟨item, after⟩, hitem, hpair⟩ := Except.bind_eq_ok_iff.mp h
    cases hpair
    exact from_escape hitem
  case h_14 c inside hopen hclose hbar hclass hask hstar hplus hbrace hdot hcaret hdollar hslash =>
    cases h
    refine from_char ?_
    simp only [marks, List.mem_cons, List.not_mem_nil, not_or, or_false]
    exact ⟨hopen, hclose, hbar, hclass, hask, hstar, hplus, hbrace, hdot, hcaret, hdollar, hslash⟩

/-! ## 4. Rows -/

/-- How many groups are open behind a token. -/
def Token.depth : Token → Nat → Option Nat
  | .openGroup _, n => some (n + 1)
  | .close, 0 => none
  | .close, n + 1 => some n
  | _, n => some n

/-- **Tokens in a row**, each evident and read from the front of what is left, and behind them as
    many groups closed as are open before them. -/
inductive Row : Nat → List Char → List Token → Prop
  | done : Row 0 [] []
  | next {n n' : Nat} {t : Token} {s rest : List Char} {tokens : List Token} :
      lexToken false s = .ok (t, rest) → t.isEvident = true → t.depth n = some n' →
      Row n' rest tokens → Row n s (t :: tokens)

theorem getD_verboseSetting {items : List FlagItem}
    (h : (verboseSetting items != some true) = true) : (verboseSetting items).getD false = false := by
  cases hsetting : verboseSetting items with
  | none => rfl
  | some on =>
    rw [hsetting] at h
    cases on with
    | true => cases h
    | false => rfl

/-- Evident tokens leave white space and comments as they are. -/
theorem settings_eq {t : Token} (ht : t.isEvident = true) (n : Nat) :
    t.settings false (List.replicate n false) = match t.depth n with
      | some n' => .ok (false, List.replicate n' false)
      | none => .error .unopenedGroup := by
  cases t with
  | flags items =>
    rw [Token.settings, getD_verboseSetting ht]
    rfl
  | openGroup kind =>
    cases kind with
    | capture name => rfl
    | plain items =>
      rw [Token.settings, getD_verboseSetting ht]
      rfl
  | close =>
    cases n with
    | zero => rfl
    | succ n => rfl
  | char | byte | dot | anchor | set | bar | repeats => rfl

theorem length_lt_of_lexToken {t : Token} {s rest : List Char} (ht : t.isEvident = true)
    (h : lexToken false s = .ok (t, rest)) : rest.length < s.length := by
  obtain ⟨text, rfl, htext, -⟩ := lexToken_eq_ok ht h
  have := List.length_pos_iff.mpr htext.ne_nil
  rw [List.length_append]
  omega

theorem Row.lexAll {n fuel : Nat} {s : List Char} {tokens : List Token} (h : Row n s tokens)
    (hfuel : s.length < fuel) : lexAll fuel false (List.replicate n false) s = .ok tokens := by
  induction h generalizing fuel with
  | done =>
    obtain ⟨fuel, rfl⟩ := Nat.exists_eq_add_of_lt hfuel
    rfl
  | next hread ht hdepth _ ih =>
    cases fuel with
    | zero => cases hfuel
    | succ fuel =>
      have hshorter := length_lt_of_lexToken ht hread
      obtain ⟨text, rfl, htext, -⟩ := lexToken_eq_ok ht hread
      obtain ⟨front, behind, rfl⟩ := List.exists_cons_of_ne_nil htext.ne_nil
      rw [DeviceCli.Regex.lexAll, skip_false]
      refine Except.bind_eq_ok_iff.mpr ⟨_, hread, ?_⟩
      refine Except.bind_eq_ok_iff.mpr ⟨_, (settings_eq ht _).trans (by rw [hdepth]), ?_⟩
      exact Except.bind_eq_ok_iff.mpr ⟨_, ih (by omega), rfl⟩

theorem row_of_lexAll {n fuel : Nat} {s : List Char} {tokens : List Token}
    (hfuel : s.length < fuel) (htokens : ∀ t ∈ tokens, t.isEvident = true)
    (h : lexAll fuel false (List.replicate n false) s = .ok tokens) : Row n s tokens := by
  induction fuel generalizing n s tokens with
  | zero => cases hfuel
  | succ fuel ih =>
    rw [lexAll, skip_false] at h
    cases s with
    | nil =>
      cases n with
      | zero =>
        cases h
        exact .done
      | succ n => cases h
    | cons front behind =>
      obtain ⟨⟨t, rest⟩, hread, h⟩ := Except.bind_eq_ok_iff.mp h
      obtain ⟨⟨verbose, outer⟩, hsettings, h⟩ := Except.bind_eq_ok_iff.mp h
      obtain ⟨more, hmore, hpair⟩ := Except.bind_eq_ok_iff.mp h
      cases hpair
      obtain ⟨ht, hmoretokens⟩ := List.forall_mem_cons.mp htokens
      have hshorter := length_lt_of_lexToken ht hread
      rw [settings_eq ht] at hsettings
      cases hdepth : t.depth n with
      | none =>
        rw [hdepth] at hsettings
        cases hsettings
      | some n' =>
        rw [hdepth] at hsettings
        cases hsettings
        exact .next hread ht hdepth (ih (by omega) hmoretokens hmore)

/-- **An evident pattern has the tokens of its row.** -/
theorem tokenize_eq_ok_iff {s : List Char} {tokens : List Token}
    (htokens : ∀ t ∈ tokens, t.isEvident = true) :
    tokenize s = .ok tokens ↔ Row 0 s tokens :=
  ⟨row_of_lexAll (n := 0) (Nat.lt_succ_self _) htokens, fun h => h.lexAll (Nat.lt_succ_self _)⟩

theorem isMeta_of_mem {c : Char} (h : c ∈ marks) : isMeta c = true := by
  have hall : marks.all isMeta = true := rfl
  exact List.all_eq_true.mp hall c h

theorem lexToken_escaped {c : Char} (h : isMeta c = true) (rest : List Char) :
    lexToken false ('\\' :: c :: rest) = .ok (.char c, rest) := by
  have hdigit : isDigit c = false := by
    simp only [isMeta, Bool.or_eq_true, beq_iff_eq, or_assoc] at h
    rcases h with rfl | rfl | rfl | rfl | rfl | rfl | rfl | rfl | rfl | rfl | rfl | rfl | rfl |
      rfl | rfl | rfl | rfl | rfl <;> rfl
  have hescape : lexEscape false (c :: rest) = .ok (.char c, rest) := by
    unfold lexEscape
    dsimp only
    rw [hdigit, if_neg Bool.false_ne_true, isEscapable, h]
    rfl
  rw [lexToken, hescape]
  rfl

/-- An escaped text is a row of its characters. -/
theorem Row.literal {n : Nat} {rest : List Char} {tokens : List Token} (h : Row n rest tokens)
    (text : List Char) : Row n (escapeChars text ++ rest) (text.map .char ++ tokens) := by
  induction text with
  | nil => exact h
  | cons c text ih =>
    rw [escapeChars]
    split
    · next hmeta =>
      exact .next (lexToken_escaped hmeta _) rfl rfl ih
    · next hmeta =>
      have hc : c ∉ marks := fun hmem => hmeta (isMeta_of_mem hmem)
      exact .next (lexToken_of_not_mem hc _) rfl rfl ih

end DeviceCli.Regex
