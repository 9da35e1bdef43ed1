import DeviceCli.Proofs.Regex.Assembly
import DeviceCli.Proofs.Regex.Row
import DeviceCli.Proofs.Regex.Shape

/-!
# Pinned patterns

The scan for the first capture follows the tokens of an evident pattern: it is in front of the
capture until its head has been read, and leaves its body where the tokens close it. What it puts
together around a literal text is therefore read as the pattern was, but for the capture.

* `splitFirst_outside`, `splitFirst_capture` and `splitFirst_body`: the scan over one token;
* `Row.body`: the scan over the body of a capture;
* `Row.pin`: **the row of a pinned pattern**, and that it is put together where the pattern is;
* `accepted_pinned`: **a pinned pattern is a pattern**;
* `rejected_pinned`: a class within a class takes the scan off the tokens.
-/

namespace DeviceCli.Pattern

open DeviceCli.Regex

/-! ## 1. The scan over a text -/

variable {g g' : PinGuard} {before rest s : List Char}

theorem splitFirst_outside_cons {c : Char} (h : ¬ (g = .free ∧ c = '(')) :
    splitFirst .outside g before (c :: rest) =
      splitFirst .outside (g.step c) (c :: before) rest := if_neg h

theorem splitFirst_body_cons {depth : Nat} {c : Char} (h : ¬ (g = .free ∧ (c = '(' ∨ c = ')'))) :
    splitFirst (.body depth) g before (c :: rest) =
      splitFirst (.body depth) (g.step c) before rest :=
  (if_neg fun hc => h ⟨hc.1, .inl hc.2⟩).trans (if_neg fun hc => h ⟨hc.1, .inr hc.2⟩)

/-- A text with no parenthesis that counts is passed in front of the first capture. -/
theorem splitFirst_pass_outside (h : g.pass s = some g') :
    splitFirst .outside g before (s ++ rest) = splitFirst .outside g' (s.reverse ++ before) rest := by
  induction s generalizing g before with
  | nil =>
    cases h
    rfl
  | cons c s ih =>
    rw [PinGuard.pass] at h
    split at h
    · cases h
    · next hcounts =>
      rw [List.cons_append, splitFirst_outside_cons fun hc => hcounts ⟨hc.1, .inl hc.2⟩, ih h,
        List.reverse_cons, List.append_assoc]
      rfl

/-- Such a text is passed in the body of the first capture. -/
theorem splitFirst_pass_body {depth : Nat} (h : g.pass s = some g') :
    splitFirst (.body depth) g before (s ++ rest) = splitFirst (.body depth) g' before rest := by
  induction s generalizing g with
  | nil =>
    cases h
    rfl
  | cons c s ih =>
    rw [PinGuard.pass] at h
    split at h
    · cases h
    · next hcounts =>
      rw [List.cons_append, splitFirst_body_cons hcounts]
      exact ih h

/-- The head of a capture is passed whatever it holds. -/
theorem splitFirst_head {c : Char} :
    splitFirst (.head (s.length + 1)) .free before (c :: s ++ rest) =
      splitFirst (.body 0) .free ((c :: s).reverse ++ before) rest := by
  induction s generalizing c before with
  | nil => rfl
  | cons d s ih =>
    rw [List.cons_append, List.length_cons, splitFirst, if_neg (Nat.succ_ne_zero _), ih]
    simp only [List.reverse_cons, List.append_assoc, List.cons_append, List.nil_append]

/-! ## 2. The scan over a token -/

theorem pass_flags {letters : List Char} (h : FlagText letters) :
    PinGuard.free.pass ('?' :: letters) = some .free :=
  PinGuard.pass_free (inert_cons.mpr ⟨rfl, h.inert⟩)

theorem captureHead?_flags {letters : List Char} (h : FlagText letters) {sign : Char}
    (hsign : sign = ')' ∨ sign = ':') (rest : List Char) :
    captureHead? ('?' :: (letters ++ sign :: rest)) = none := by
  have hbegin : ∀ c more, letters ++ sign :: rest = c :: more → c ≠ 'P' ∧ c ≠ '<' := by
    intro c more heq
    cases letters with
    | nil =>
      cases heq
      rcases hsign with rfl | rfl <;> decide
    | cons d letters =>
      cases heq
      constructor <;> rintro rfl <;> exact absurd (h _ List.mem_cons_self) (by decide)
  unfold captureHead?
  split
  · next heq => exact absurd rfl (hbegin _ _ (List.cons.inj heq).2).1
  · next heq => exact absurd rfl (hbegin _ _ (List.cons.inj heq).2).2
  · rfl
  · next hmark => exact absurd rfl (hmark _)

theorem behindFirst?_append {c : Char} {s : List Char} (h : c ∉ s) (rest : List Char) :
    behindFirst? c (s ++ c :: rest) = some (s.length + 1) := by
  induction s with
  | nil => exact if_pos rfl
  | cons d s ih =>
    rw [List.mem_cons, not_or] at h
    rw [List.cons_append, behindFirst?, if_neg (Ne.symm h.1), ih h.2]
    rfl

/-- The head of a capture with a name reaches to the sign that ends the name. Only a look-behind has
    an equals sign or an exclamation mark where the name begins. -/
theorem captureHead?_named {head name : List Char} (hhead : head = ['?', 'P', '<'] ∨ head = ['?', '<'])
    (hsign : '>' ∉ name) (hequal : name.head? ≠ some '=') (hbang : name.head? ≠ some '!')
    (rest : List Char) :
    captureHead? (head ++ (name ++ '>' :: rest)) = some (head ++ (name ++ ['>'])).length := by
  have hfirst : ∀ c more, name ++ '>' :: rest = c :: more → c ≠ '=' ∧ c ≠ '!' := by
    intro c more heq
    cases name with
    | nil =>
      cases heq
      decide
    | cons d name =>
      cases heq
      exact ⟨fun h => hequal (congrArg some h), fun h => hbang (congrArg some h)⟩
  have hlength : ∀ sofar, captureHead?.nameLength sofar (name ++ '>' :: rest) =
      some (name.length + 1 + sofar) := by
    intro sofar
    unfold captureHead?.nameLength
    split
    · next heq => exact absurd rfl (hfirst _ _ heq).1
    · next heq => exact absurd rfl (hfirst _ _ heq).2
    · rw [behindFirst?_append hsign]
      rfl
  rcases hhead with rfl | rfl
  · refine (hlength 3).trans (congrArg some ?_)
    simp
  · refine (hlength 2).trans (congrArg some ?_)
    simp

theorem captureHead?_none {rest : List Char} (h : rest.head? ≠ some '?') :
    captureHead? rest = some 0 := by
  unfold captureHead?
  split
  case h_4 => rfl
  all_goals exact absurd rfl h

theorem splitFirst_noCapture (h : captureHead? rest = none) :
    splitFirst .outside .free before ('(' :: rest) =
      splitFirst .outside .free ('(' :: before) rest := by
  rw [splitFirst.eq_def]
  dsimp only
  rw [if_pos ⟨rfl, rfl⟩, h]

/-- In front of the first capture the scan passes every other token. -/
theorem splitFirst_outside {t : Token} (ht : ∀ name, t ≠ .openGroup (.capture name))
    (h : t.Text s) : splitFirst .outside .free before (s ++ rest) =
      splitFirst .outside .free (s.reverse ++ before) rest := by
  have hhead : ∀ {letters : List Char} {sign : Char}, FlagText letters → sign = ')' ∨ sign = ':' →
      splitFirst .outside .free before ('(' :: '?' :: (letters ++ [sign]) ++ rest) =
        splitFirst .outside .free (('(' :: '?' :: (letters ++ [sign])).reverse ++ before) rest := by
    intro letters sign hflags hsign
    have hopen : ¬ (PinGuard.free = .free ∧ sign = '(') := by
      rcases hsign with rfl | rfl <;> decide
    have hstep : PinGuard.free.step sign = .free := by
      rcases hsign with rfl | rfl <;> rfl
    have hparts : '(' :: '?' :: (letters ++ [sign]) ++ rest =
        '(' :: ('?' :: letters ++ sign :: rest) := by simp
    have hnone : captureHead? ('?' :: letters ++ sign :: rest) = none :=
      captureHead?_flags hflags hsign rest
    rw [hparts, splitFirst_noCapture hnone,
      splitFirst_pass_outside (pass_flags hflags), splitFirst_outside_cons hopen, hstep]
    simp
  cases h with
  | leaf _ _ hpass => exact splitFirst_pass_outside hpass
  | close => rfl
  | flags hflags => exact hhead hflags (.inl rfl)
  | plain hflags => exact hhead hflags (.inr rfl)
  | capture => exact absurd rfl (ht _)
  | named => exact absurd rfl (ht _)

/-- At a capture without a name it goes over to the body behind the parenthesis. -/
theorem splitFirst_unnamed (h : rest.head? ≠ some '?') :
    splitFirst .outside .free before ('(' :: rest) = splitFirst (.body 0) .free ('(' :: before) rest := by
  rw [splitFirst.eq_def]
  dsimp only
  rw [if_pos ⟨rfl, rfl⟩, captureHead?_none h]
  rfl

/-- At one with a name it does so behind the name. -/
theorem splitFirst_named {head name : List Char} (hhead : head = ['?', 'P', '<'] ∨ head = ['?', '<'])
    (hsign : '>' ∉ name) (hequal : name.head? ≠ some '=') (hbang : name.head? ≠ some '!') :
    splitFirst .outside .free before ('(' :: (head ++ (name ++ ['>'])) ++ rest) =
      splitFirst (.body 0) .free (('(' :: (head ++ (name ++ ['>']))).reverse ++ before) rest := by
  obtain ⟨c, more, heq⟩ : ∃ c more, head ++ (name ++ ['>']) = c :: more := by
    rcases hhead with rfl | rfl <;> exact ⟨_, _, rfl⟩
  have hparts : '(' :: (head ++ (name ++ ['>'])) ++ rest =
      '(' :: (head ++ (name ++ '>' :: rest)) := by simp
  have hbehind : head ++ (name ++ '>' :: rest) = c :: more ++ rest := by
    rw [← heq]
    simp
  rw [hparts, splitFirst.eq_def]
  dsimp only
  rw [if_pos ⟨rfl, rfl⟩, captureHead?_named hhead hsign hequal hbang, heq, hbehind]
  refine splitFirst_head.trans ?_
  simp

/-- A name has no sign that ends names in it, and does not begin as what is behind a look-behind. -/
theorem ne_of_isGroupName {name : List Char} (h : isGroupName name = true) :
    '>' ∉ name ∧ name.head? ≠ some '=' ∧ name.head? ≠ some '!' := by
  have hall := isNameChar_of_mem h
  refine ⟨fun hmem => absurd (hall _ hmem) (by decide), fun hfirst => ?_, fun hfirst => ?_⟩
  · exact absurd (hall _ (List.mem_of_mem_head? hfirst)) (by decide)
  · exact absurd (hall _ (List.mem_of_mem_head? hfirst)) (by decide)

/-- At a capture it goes over to the body. -/
theorem splitFirst_capture {name : Option (List Char)}
    (h : (Token.openGroup (.capture name)).Text s) (hrest : name = none → rest.head? ≠ some '?') :
    splitFirst .outside .free before (s ++ rest) =
      splitFirst (.body 0) .free (s.reverse ++ before) rest := by
  cases h with
  | leaf hleaf => cases hleaf
  | capture => exact splitFirst_unnamed (hrest rfl)
  | @named name head hhead hname =>
    obtain ⟨hsign, hequal, hbang⟩ := ne_of_isGroupName hname
    exact splitFirst_named hhead hsign hequal hbang

/-- In the body the scan counts the groups that are open, and stops where the body is closed. -/
theorem splitFirst_body {t : Token} (ht : t.isEvident = true) (h : t.Text s) (depth : Nat) :
    splitFirst (.body depth) .free before (s ++ rest) = match t.depth depth with
      | some depth' => splitFirst (.body depth') .free before rest
      | none => some (before.reverse, s ++ rest) := by
  -- A parenthesis that opens a group, and what of its head is behind it.
  have hopen : ∀ {head : List Char}, PinGuard.free.pass head = some .free →
      splitFirst (.body depth) .free before ('(' :: head ++ rest) =
        splitFirst (.body (depth + 1)) .free before rest := fun hpass =>
    splitFirst_pass_body hpass
  cases h with
  | leaf hleaf _ hpass =>
    rw [splitFirst_pass_body hpass]
    cases t with
    | flags | openGroup | close => cases hleaf
    | char | byte | dot | anchor | set | bar | repeats => rfl
  | close =>
    cases depth with
    | zero => rfl
    | succ depth => rfl
  | @flags items letters hflags =>
    have hparts : '(' :: '?' :: (letters ++ [')']) ++ rest =
        '(' :: ('?' :: letters ++ ')' :: rest) := by simp
    rw [hparts]
    exact splitFirst_pass_body (pass_flags hflags)
  | @plain items letters hflags =>
    refine hopen ?_
    rw [← List.cons_append, PinGuard.pass_append, pass_flags hflags]
    rfl
  | capture => exact hopen rfl
  | @named name head hhead hname =>
    have hbracket : '[' ∉ name := by simpa [Token.isEvident] using ht
    have hpass : PinGuard.free.pass name = some .free := PinGuard.pass_free_of_ne fun c hc => by
      have hchar := isNameChar_of_mem hname c hc
      refine ⟨?_, fun h => hbracket (h ▸ hc), ?_, ?_⟩ <;> rintro rfl <;>
        exact absurd hchar (by decide)
    have hend : PinGuard.free.pass (name ++ ['>']) = some .free := by
      rw [PinGuard.pass_append, hpass]
      rfl
    refine hopen ?_
    rcases hhead with rfl | rfl
    all_goals
      rw [PinGuard.pass_append]
      exact hend

/-! ## 3. The scan over a row -/

/-- The groups open behind a token are as many more as without those around. -/
theorem depth_add {t : Token} {depth depth' : Nat} (h : t.depth depth = some depth') (n : Nat) :
    t.depth (n + depth + 1) = some (n + depth' + 1) := by
  cases t with
  | close =>
    cases depth with
    | zero => cases h
    | succ depth =>
      cases h
      rfl
  | openGroup kind =>
    cases h
    rfl
  | char | byte | dot | anchor | set | flags | bar | repeats =>
    cases h
    rfl

theorem depth_eq_none {t : Token} {depth : Nat} (h : t.depth depth = none) :
    t = .close ∧ depth = 0 := by
  cases t with
  | close =>
    cases depth with
    | zero => exact ⟨rfl, rfl⟩
    | succ depth => cases h
  | openGroup | char | byte | dot | anchor | set | flags | bar | repeats => cases h

/-- A token that does not close the last of them leaves the groups around those in question. -/
theorem groups_of_depth {t : Token} {inner tail groups : List OpenGroup} {depth : Nat}
    (hdepth : t.depth inner.length = some depth) (h : t.Moves (inner ++ tail) groups) :
    ∃ inner', groups = inner' ++ tail ∧ inner'.length = depth := by
  cases t with
  | close =>
    obtain ⟨g, heq⟩ := h
    cases inner with
    | nil => cases hdepth
    | cons g' inner =>
      cases heq
      cases hdepth
      exact ⟨inner, rfl, rfl⟩
  | openGroup kind =>
    obtain ⟨g, rfl⟩ := h
    cases hdepth
    exact ⟨g :: inner, rfl, rfl⟩
  | char | byte | dot | anchor | set | flags | bar | repeats =>
    cases hdepth
    exact ⟨inner, h, rfl⟩

/-- **The body of a capture**: in it `depth` groups are open, and `n` around the capture. The scan
    leaves it where the capture is closed; behind that the row goes on, and so does putting the
    tokens together, with some body in the capture. -/
theorem row_behind_body (n depth : Nat) {m : Nat} {s : List Char} {tokens : List Token}
    (h : Row m s tokens) (hm : m = n + depth + 1) (before : List Char) :
    ∃ rest tokens', splitFirst (.body depth) .free before s = some (before.reverse, ')' :: rest) ∧
      Row n rest tokens' ∧ tokens'.Sublist tokens ∧
      ∀ {k : Nat} {inner outer : List OpenGroup} {g : OpenGroup} {branches items : List Expr}
        {e : Expr}, inner.length = depth →
        assemble tokens k (inner ++ g :: outer) branches items = .ok e →
        ∃ k' body, assemble tokens' k' outer g.branches (g.head.close body :: g.items) = .ok e := by
  induction h generalizing depth with
  | done => omega
  | @next _ n' t s rest tokens hread ht hdepth hrow ih =>
    subst hm
    obtain ⟨text, rfl, htext, -⟩ := lexToken_eq_ok ht hread
    rw [splitFirst_body ht htext]
    cases hinner : t.depth depth with
    | some depth' =>
      rw [depth_add hinner] at hdepth
      obtain ⟨rest', tokens', hsplit, hrow', hsub, hassemble⟩ :=
        ih depth' (Option.some.inj hdepth).symm
      refine ⟨rest', tokens', hsplit, hrow', hsub.cons t, ?_⟩
      rintro k inner outer g branches items e rfl h
      obtain ⟨k', groups, branches', items', hnext, hmoves⟩ := assemble_next h
      obtain ⟨inner', rfl, hlength⟩ := groups_of_depth hinner hmoves
      rw [hnext] at h
      exact hassemble hlength h
    | none =>
      obtain ⟨rfl, rfl⟩ := depth_eq_none hinner
      cases htext with
      | leaf hleaf => cases hleaf
      | close =>
        cases hdepth
        refine ⟨rest, tokens, rfl, hrow, List.sublist_cons_self _ _, ?_⟩
        intro k inner outer g branches items e hlength h
        obtain rfl := List.length_eq_zero_iff.mp hlength
        exact ⟨_, _, h⟩

/-! ## 4. The pinned row -/

theorem captureNames_append (a b : List Token) :
    captureNames (a ++ b) = captureNames a ++ captureNames b := List.filterMap_append

theorem captureNames_cons (t : Token) (tokens : List Token) :
    captureNames (t :: tokens) = captureNames [t] ++ captureNames tokens :=
  captureNames_append [t] tokens

theorem captureNames_literal (literal : List Char) : captureNames (literal.map .char) = [] := by
  induction literal with
  | nil => rfl
  | cons c literal ih => exact ih

theorem captureNames_sublist {tokens tokens' : List Token} (h : tokens'.Sublist tokens) :
    (captureNames tokens').Sublist (captureNames tokens) := h.filterMap _

theorem head?_escaped (literal rest : List Char) :
    (escapeChars literal ++ ')' :: rest).head? ≠ some '?' := by
  cases literal with
  | nil => exact fun h => absurd (Option.some.inj h) (by decide)
  | cons c literal =>
    rw [escapeChars]
    split
    · exact fun h => absurd (Option.some.inj h) (by decide)
    · next hmeta =>
      intro h
      rw [Option.some.inj (show some c = some '?' from h)] at hmeta
      exact hmeta rfl

/-- **The row of a pinned pattern**: in front of the capture it is the row of the pattern, and it is
    put together to something alike wherever that is. -/
theorem row_pinned {n : Nat} {s : List Char} {tokens : List Token} (h : Row n s tokens)
    {before front back : List Char} (literal : List Char)
    (hsplit : splitFirst .outside .free before s = some (front, back)) :
    ∃ first behind, s = first ++ behind ∧ front = before.reverse ++ first ∧ '(' ∈ first ∧
      ∃ tokens', Row n (first ++ (escapeChars literal ++ back)) tokens' ∧
        (captureNames tokens').Sublist (captureNames tokens) ∧
        ∀ {k : Nat} {outer : List OpenGroup} {branches items : List Expr} {e : Expr},
          assemble tokens k outer branches items = .ok e →
          ∃ e', assemble tokens' k outer branches items = .ok e' ∧ e.Like e' := by
  induction h generalizing before with
  | done => cases hsplit
  | @next n n' t s rest tokens hread ht hdepth hrow ih =>
    obtain ⟨text, rfl, htext, hhead, hagain⟩ := lexToken_eq_ok ht hread
    by_cases hcapture : ∃ name, t = .openGroup (.capture name)
    · obtain ⟨name, rfl⟩ := hcapture
      rw [splitFirst_capture htext fun hname => hhead (hname ▸ rfl)] at hsplit
      cases hdepth
      obtain ⟨rest', tokens', hbody, hrow', hsub, hassemble⟩ :=
        row_behind_body n 0 hrow rfl (text.reverse ++ before)
      rw [hbody] at hsplit
      obtain ⟨rfl, rfl⟩ := Prod.mk.inj (Option.some.inj hsplit)
      have hopen : '(' ∈ text := by
        cases htext with
        | leaf hleaf => cases hleaf
        | capture | named => exact List.mem_cons_self
      refine ⟨text, rest, rfl, by simp, hopen,
        .openGroup (.capture name) :: (literal.map .char ++ .close :: tokens'), ?_, ?_, ?_⟩
      · have hclose : Row (n + 1) (')' :: rest') (.close :: tokens') := .next rfl rfl rfl hrow'
        exact .next (lexToken_of_capture htext (head?_escaped literal rest')) ht rfl
          (hclose.literal literal)
      · rw [captureNames_cons, captureNames_append, captureNames_literal, List.nil_append,
          captureNames_cons _ tokens]
        exact (captureNames_sublist hsub).append_left _
      · intro k outer branches items e h
        have hnone : ([] : List OpenGroup).length = 0 := rfl
        obtain ⟨k', body, hend⟩ := hassemble hnone h
        obtain ⟨e', he', hlike⟩ : ∃ e', assemble tokens' (k + 1) outer branches
            (.capture k (literalExpr literal) :: items) = .ok e' ∧ e.Like e' :=
          like_assemble (forall₂_groups_refl _) (forall₂_like_refl _)
            ((forall₂_like_refl _).cons (.literal literal)) hend
        refine ⟨e', ?_, hlike⟩
        rw [assemble, assemble_literal, List.append_nil]
        exact he'
    · rw [splitFirst_outside (fun name hname => hcapture ⟨name, hname⟩) htext] at hsplit
      obtain ⟨first, behind, rfl, rfl, hopen, tokens', hrow', hnames, hassemble⟩ := ih hsplit
      refine ⟨text ++ first, behind, by simp, by simp, List.mem_append_right _ hopen,
        t :: tokens', ?_, ?_, ?_⟩
      · obtain ⟨v, r, rfl⟩ := List.append_of_mem hopen
        have hagree : Agree ((v ++ '(' :: r) ++ behind)
            ((v ++ '(' :: r) ++ (escapeChars literal ++ back)) :=
          ⟨v, '(', _, _, rfl, List.append_assoc _ _ _, List.append_assoc _ _ _⟩
        rw [List.append_assoc]
        exact .next (hagain _ hagree) ht hdepth hrow'
      · rw [captureNames_cons, captureNames_cons t tokens]
        exact hnames.append_left _
      · intro k outer branches items e h
        obtain ⟨k', groups, branches', items', hnext, -⟩ := assemble_next h
        rw [hnext] at h
        obtain ⟨e', he', hlike⟩ := hassemble h
        exact ⟨e', (hnext tokens').trans he', hlike⟩

/-! ## 5. Pinned patterns -/

theorem allDifferent_iff {names : List (List Char)} :
    allDifferent names = true ↔ names.Nodup := by
  induction names with
  | nil => exact ⟨fun _ => List.nodup_nil, fun _ => rfl⟩
  | cons name names ih =>
    rw [allDifferent, List.nodup_cons, Bool.and_eq_true, ih, Bool.not_eq_true',
      ← Bool.not_eq_true, List.contains_iff_mem]

/-- Whether nothing in a pattern hides where its groups begin and end, and it is less deep than a
    pattern may be. -/
def isEvident (source : List Char) : Bool :=
  match tokenize source, parse source with
  | .ok tokens, .ok e => tokens.all Token.isEvident && decide (e.nesting .none < nestLimit)
  | _, _ => false

/-- A text that is written as a pattern can be compiled, if it does not take too much space. -/
theorem compileWith_of_resolve {flags : Flags} {s : List Char} {e : Expr} {node : Node}
    (hparse : parse s = .ok e) (hresolve : e.resolve flags = .ok node) :
    (∃ r, Regex.compileWith flags s = .ok r) ∨
      Regex.compileWith flags s = .error (.tooLarge sizeLimit) := by
  cases hlarge : node.tooLarge with
  | true =>
    refine .inr ?_
    rw [Regex.compileWith, hparse]
    show ((e.resolve flags).mapError Regex.Error.malformed >>= _) = _
    rw [hresolve]
    exact if_pos hlarge
  | false =>
    exact .inl ⟨_, Regex.compileWith_eq_ok_iff.mpr ⟨e, node, hparse, hresolve, hlarge, rfl⟩⟩

/-- An escaped text, as characters. -/
theorem toList_escape (text : String) : (escape text).toList = escapeChars text.toList :=
  String.toList_ofList

/-- A pattern keeps the text it was written as. -/
theorem compile_eq_ok_iff {source : String} {p : Pattern} : compile source = .ok p ↔
    p.source = source ∧ Regex.compileWith {} source.toList = .ok p.regex := by
  rw [compile, Regex.compile]
  cases Regex.compileWith {} source.toList with
  | error e => exact ⟨nofun, fun h => nomatch h.2⟩
  | ok regex =>
    constructor
    · rintro ⟨⟩
      exact ⟨rfl, rfl⟩
    · rintro ⟨rfl, hregex⟩
      cases hregex
      rfl

/-- The pattern that a literal text is pinned to where there is no capture. -/
theorem parse_literal (literal : List Char) :
    parse ('(' :: escapeChars literal ++ [')']) = .ok (.capture 1 (literalExpr literal)) := by
  have hclose : Row 1 [')'] [.close] := .next rfl rfl rfl .done
  have hopen : lexToken false ('(' :: (escapeChars literal ++ [')'])) =
      .ok (.openGroup (.capture none), escapeChars literal ++ [')']) :=
    lexToken_of_capture .capture (head?_escaped literal [])
  have hrow : Row 0 ('(' :: escapeChars literal ++ [')'])
      (.openGroup (.capture none) :: (literal.map .char ++ [.close])) :=
    .next hopen rfl rfl (hclose.literal literal)
  refine parse_eq_ok_iff.mpr ⟨_, hrow.lexAll (Nat.lt_succ_self _), ?_, ?_, ?_⟩
  · rw [captureNames_cons, captureNames_append, captureNames_literal]
    rfl
  · rw [assemble, assemble_literal, List.append_nil]
    rfl
  · have := nesting_literalExpr literal
    rw [Expr.nesting, nestLimit]
    omega

/-- What is pinned is written as a pattern, and can be resolved wherever the pattern can. -/
theorem parse_pinnedChars {source : List Char} {e : Expr} (hevident : isEvident source = true)
    (hparse : parse source = .ok e) (literal : List Char) :
    ∃ e', parse (pinnedChars source literal) = .ok e' ∧
      ∀ {f : Flags} {node : Node} (lines : Bool), e.resolve f = .ok node →
        ∃ node', e'.resolve (f.withLines lines) = .ok node' := by
  obtain ⟨tokens, htokens, hnames, hassemble, -⟩ := parse_eq_ok_iff.mp hparse
  rw [isEvident, htokens, hparse, Bool.and_eq_true, List.all_eq_true, decide_eq_true_eq] at hevident
  obtain ⟨hevident, hdepth⟩ := hevident
  rw [pinnedChars]
  split
  · next front back hsplit =>
    obtain ⟨first, behind, -, rfl, -, tokens', hrow, hsub, hpinned⟩ :=
      row_pinned ((tokenize_eq_ok_iff hevident).mp htokens) literal hsplit
    obtain ⟨e', hassemble', hlike⟩ := hpinned hassemble
    refine ⟨e', parse_eq_ok_iff.mpr ⟨tokens', ?_, ?_, hassemble', ?_⟩, hlike.resolve⟩
    · rw [List.append_assoc]
      exact hrow.lexAll (Nat.lt_succ_self _)
    · exact allDifferent_iff.mpr ((allDifferent_iff.mp hnames).sublist hsub)
    · exact Nat.le_trans (hlike.nesting_le .none) hdepth
  · refine ⟨_, parse_literal literal, fun {f node} lines _ => ?_⟩
    obtain ⟨nodes, hnodes⟩ := resolveBranches_literalExpr literal (f.withLines lines)
    exact ⟨_, Except.bind_eq_ok_iff.mpr
      ⟨_, Except.bind_eq_ok_iff.mpr ⟨_, hnodes, rfl⟩, rfl⟩⟩

/-- **A pinned pattern is a pattern**, if nothing in the pattern hides its groups: for every text it
    is pinned to, it is compiled as the pattern was, and for a device to match line by line, unless
    it takes too much space. -/
theorem accepted_pinned {source : String} {p : Pattern} (h : compile source = .ok p)
    (hevident : isEvident source.toList = true) (literal : String) :
    ((∃ q, compile (p.pinned literal) = .ok q) ∨
      compile (p.pinned literal) = .error (.tooLarge sizeLimit)) ∧
    ((∃ r, Regex.compileMultiLine (p.pinned literal) = .ok r) ∨
      Regex.compileMultiLine (p.pinned literal) = .error (.tooLarge sizeLimit)) := by
  obtain ⟨rfl, hregex⟩ := compile_eq_ok_iff.mp h
  obtain ⟨e, node, hparse, hresolve, -⟩ := Regex.compileWith_eq_ok_iff.mp hregex
  obtain ⟨e', hparse', hagain⟩ := parse_pinnedChars hevident hparse literal.toList
  rw [← String.toList_ofList (l := pinnedChars p.source.toList literal.toList)] at hparse'
  obtain ⟨single, hsingle⟩ := hagain false hresolve
  obtain ⟨multi, hmulti⟩ := hagain true hresolve
  refine ⟨?_, compileWith_of_resolve hparse' hmulti⟩
  rcases compileWith_of_resolve hparse' hsingle with ⟨regex, hok⟩ | herror
  · exact .inl ⟨⟨_, regex⟩, compile_eq_ok_iff.mpr ⟨rfl, hok⟩⟩
  · exact .inr (congrArg (Except.map _) herror)

/-- The pattern of a host name in front of a hash sign, pinned. -/
theorem accepted_pinned_host : ∃ p, compile "^([a-z]+)#$" = .ok p ∧
    isEvident "^([a-z]+)#$".toList = true ∧
    ((∃ q, compile (p.pinned "sw-1") = .ok q) ∨
      compile (p.pinned "sw-1") = .error (.tooLarge sizeLimit)) ∧
    ((∃ r, Regex.compileMultiLine (p.pinned "sw-1") = .ok r) ∨
      Regex.compileMultiLine (p.pinned "sw-1") = .error (.tooLarge sizeLimit)) := by
  have hok : (compile "^([a-z]+)#$").isOk = true := by decide +kernel
  have hevident : isEvident "^([a-z]+)#$".toList = true := by decide +kernel
  cases h : compile "^([a-z]+)#$" with
  | error e =>
    rw [h] at hok
    cases hok
  | ok p => exact ⟨p, rfl, hevident, accepted_pinned h hevident "sw-1"⟩

/-- **A class within a class takes the scan off the tokens**: it takes the first bracket for the end
    of both, and the parenthesis behind it for that of the capture. -/
theorem rejected_pinned : ∃ p, compile "^([[a-z]--)]+)#$" = .ok p ∧
    p.pinned "sw" = "^(sw)]+)#$" ∧
    compile (p.pinned "sw") = .error (.malformed .unopenedGroup) ∧
    Regex.compileMultiLine (p.pinned "sw") = .error (.malformed .unopenedGroup) := by
  have hok : (compile "^([[a-z]--)]+)#$").isOk = true := by decide +kernel
  cases h : compile "^([[a-z]--)]+)#$" with
  | error e =>
    rw [h] at hok
    cases hok
  | ok p =>
    have hpinned : p.pinned "sw" = "^(sw)]+)#$" := by
      rw [pinned, (compile_eq_ok_iff.mp h).1]
      decide +kernel
    refine ⟨p, rfl, hpinned, ?_, ?_⟩
    · rw [hpinned]
      rfl
    · rw [hpinned]
      rfl

end DeviceCli.Pattern
