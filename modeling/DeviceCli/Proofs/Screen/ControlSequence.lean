import DeviceCli.Screen.ControlSequence

/-!
# What is left of a text with control sequences

The output of a device is text with whole control sequences in between. A reader that leaves them
out has to come back to plain text behind the last character of each, no sooner and no later.

* `Chunk`: text or a control sequence, with the characters that it is written with and the ones
  that are meant to stay; `Chunk.Formed` says which are control sequences at all;
* `keepFrom_text`, `keepFrom_parameters`, `keepFrom_command`: how far each state of the reader goes;
* `Chunk.Recognized`: the control sequences whose end the reader knows, and `keepFrom_chars`: it
  leaves out one of those and nothing else;
* `exists_text_of_not_recognized`: of any other one, or of the text behind it, it does not;
* `stripControls_flatMap`: **what is left of chunks that are recognized is their text**, and
  `stripControls_tilde`: not so of all chunks.
-/

namespace DeviceCli.Screen

open DeviceCli.Text

/-! ## 1. Chunks -/

/-- A piece of the output of a device. -/
inductive Chunk where
  | text (cs : List Char)
  /-- a control sequence: `ESC [`, parameters and a final character -/
  | control (parameters : List Char) (final : Char)
  /-- an operating system command: `ESC ]` and a text, up to a bell or else to `ESC \` -/
  | command (body : List Char) (bell : Bool)
  /-- the choice of a character set: `ESC`, one of four marks, and a character for the set -/
  | charset (mark set : Char)
  /-- `ESC` and one more character -/
  | escape (c : Char)
  deriving DecidableEq

namespace Chunk

/-- The characters that a chunk is written with. -/
def chars : Chunk → List Char
  | text cs => cs
  | control parameters final => escapeChar :: '[' :: (parameters ++ [final])
  | command body bell =>
    escapeChar :: ']' :: (body ++ if bell then ['\x07'] else [escapeChar, '\\'])
  | charset mark set => [escapeChar, mark, set]
  | escape c => [escapeChar, c]

/-- The characters of a chunk that are text. -/
def plain : Chunk → List Char
  | text cs => cs
  | _ => []

/-- A chunk is text without an escape character, or a control sequence of its kind. -/
def Formed : Chunk → Prop
  | text cs => escapeChar ∉ cs
  | control parameters final =>
    (∀ c ∈ parameters, '\x20' ≤ c ∧ c ≤ '\x3f') ∧ '\x40' ≤ final ∧ final ≤ '\x7e'
  | command body _ => escapeChar ∉ body ∧ '\x07' ∉ body
  | charset mark _ => mark ∈ ['(', ')', '*', '+']
  | escape c => ('\x30' ≤ c ∧ c ≤ '\x7e') ∧ c ≠ '[' ∧ c ≠ ']'

/-- Whether a character ends the parameters of a control sequence, for the reader. -/
def endsControl (c : Char) : Bool := isLatinLetter c || c == '@' || c == '\x60'

/-- The chunks whose end the reader knows: a control sequence that ends in a letter, `@` or a grave
    accent, and an escape character with an upper case letter, `=` or `>`. All others of their kinds
    are not recognized. -/
def Recognized : Chunk → Prop
  | control _ final => endsControl final = true
  | escape c => ('A' ≤ c ∧ c ≤ 'Z') ∨ c = '=' ∨ c = '>'
  | _ => True

instance : DecidablePred Formed
  | text cs => inferInstanceAs (Decidable (escapeChar ∉ cs))
  | control parameters final =>
    -- by the parameters that there are, not by all characters
    letI := List.decidableBAll (fun c => '\x20' ≤ c ∧ c ≤ '\x3f') parameters
    inferInstanceAs
      (Decidable ((∀ c ∈ parameters, '\x20' ≤ c ∧ c ≤ '\x3f') ∧ '\x40' ≤ final ∧ final ≤ '\x7e'))
  | command body _ => inferInstanceAs (Decidable (escapeChar ∉ body ∧ '\x07' ∉ body))
  | charset mark _ => inferInstanceAs (Decidable (mark ∈ ['(', ')', '*', '+']))
  | escape c => inferInstanceAs (Decidable (('\x30' ≤ c ∧ c ≤ '\x7e') ∧ c ≠ '[' ∧ c ≠ ']'))

instance : DecidablePred Recognized
  | text _ => inferInstanceAs (Decidable True)
  | control _ final => inferInstanceAs (Decidable (endsControl final = true))
  | command _ _ => inferInstanceAs (Decidable True)
  | charset _ _ => inferInstanceAs (Decidable True)
  | escape c => inferInstanceAs (Decidable (('A' ≤ c ∧ c ≤ 'Z') ∨ c = '=' ∨ c = '>'))

end Chunk

/-! ## 2. The reader -/

section Reader

variable {s body rest : List Char} {c : Char}

theorem keepFrom_cons (state : ControlState) (c : Char) (rest : List Char) :
    keepFrom state (c :: rest) =
      (if (state.step c).2 then [c] else []) ++ keepFrom (state.step c).1 rest := by
  rw [keepFrom]
  obtain ⟨next, kept⟩ := state.step c
  cases kept <;> rfl

/-- **Text is kept**, up to an escape character. -/
theorem keepFrom_text (h : escapeChar ∉ s) :
    keepFrom .plain (s ++ rest) = s ++ keepFrom .plain rest := by
  induction s with
  | nil => rfl
  | cons c s ih =>
    rw [List.mem_cons, not_or] at h
    have hstep : ControlState.plain.step c = (.plain, true) := if_neg (Ne.symm h.1)
    rw [List.cons_append, keepFrom_cons, hstep, ih h.2]
    rfl

/-- **Parameters go up to the first character that ends them**, whatever is in front of it, and that
    one goes with them. -/
theorem keepFrom_parameters (s : List Char) :
    keepFrom .parameters s = keepFrom .plain (s.dropWhile (!Chunk.endsControl ·)).tail := by
  induction s with
  | nil => rfl
  | cons c s ih =>
    have hends : (isLatinLetter c = true ∨ c = '@' ∨ c = '\x60') ↔ Chunk.endsControl c = true := by
      simp [Chunk.endsControl, or_assoc]
    rw [keepFrom_cons, ControlState.step]
    by_cases hc : Chunk.endsControl c = true
    · rw [if_pos (hends.mpr hc), List.dropWhile_cons_of_neg (by simp [hc])]
      rfl
    · rw [if_neg (mt hends.mp hc), List.dropWhile_cons_of_pos (by simp [hc]), ← ih]
      rfl

/-- **A command goes up to a bell**, or up to an escape character and the backslash behind it. -/
theorem keepFrom_command (hescape : escapeChar ∉ body) (hbell : '\x07' ∉ body) (bell : Bool) :
    keepFrom .command (body ++ (if bell then ['\x07'] else [escapeChar, '\\']) ++ rest) =
      keepFrom .plain rest := by
  induction body with
  | nil => cases bell <;> rfl
  | cons c body ih =>
    rw [List.mem_cons, not_or] at hescape hbell
    have hstep : ControlState.command.step c = (.command, false) :=
      (if_neg (Ne.symm hbell.1)).trans (if_neg (Ne.symm hescape.1))
    rw [List.cons_append, List.cons_append, keepFrom_cons, hstep, ih hescape.2 hbell.2]
    rfl

/-- What ends parameters is none of them. -/
theorem not_endsControl_of_le (h : c ≤ '\x3f') : Chunk.endsControl c = false := by
  refine Bool.eq_false_iff.mpr fun hends => ?_
  have hle : '\x40' ≤ c := by
    simp only [Chunk.endsControl, isLatinLetter, Bool.or_eq_true, Bool.and_eq_true,
      decide_eq_true_eq, beq_iff_eq] at hends
    rcases hends with ((hsmall | hcapital) | rfl) | rfl
    · exact Char.le_trans (by decide) hsmall.1
    · exact Char.le_trans (by decide) hcapital.1
    · exact Char.le_refl '\x40'
    · decide
  exact absurd (Char.le_trans hle h) (by decide)

/-- A control sequence goes as far as its final character, if that one ends parameters. -/
theorem keepFrom_control {final : Char} {parameters : List Char}
    (h : ∀ c ∈ parameters, '\x20' ≤ c ∧ c ≤ '\x3f') (hfinal : Chunk.endsControl final = true) :
    keepFrom .parameters (parameters ++ final :: rest) = keepFrom .plain rest := by
  have hall : ∀ c ∈ parameters, (!Chunk.endsControl c) = true := by
    intro c hc
    rw [not_endsControl_of_le (h c hc).2]
    rfl
  rw [keepFrom_parameters, List.dropWhile_append_of_pos hall,
    List.dropWhile_cons_of_neg (by simp [hfinal]), List.tail_cons]

/-- Behind an escape character, one that begins no longer sequence is left out if it is recognized
    and kept if it is not. -/
theorem keepFrom_escape (h : (Chunk.escape c).Formed) :
    keepFrom .plain (escapeChar :: c :: rest) =
      (if (Chunk.escape c).Recognized then [] else [c]) ++ keepFrom .plain rest := by
  obtain ⟨⟨hlow, -⟩, hbracket, hclose⟩ := h
  have hmark : ¬ (c = '(' ∨ c = ')' ∨ c = '*' ∨ c = '+') := by
    intro hmark
    rcases hmark with rfl | rfl | rfl | rfl <;> exact absurd hlow (by decide)
  have hescape : c ≠ escapeChar := by
    intro hescape
    rw [hescape] at hlow
    exact absurd hlow (by decide)
  have hstep : ControlState.escape.step c =
      if (Chunk.escape c).Recognized then (.plain, false) else (.plain, true) := by
    rw [ControlState.step, if_neg hbracket, if_neg hclose, if_neg hmark, ControlState.ofPlain,
      if_neg hescape]
    rfl
  have hfirst : ControlState.plain.step escapeChar = (.escape, false) := rfl
  rw [keepFrom_cons, hfirst, keepFrom_cons, hstep]
  by_cases hknown : (Chunk.escape c).Recognized
  · simp only [if_pos hknown]
    rfl
  · simp only [if_neg hknown]
    rfl

/-- **A chunk that is recognized** leaves its text, and what is behind it is read as if it stood
    alone: one case for each kind of chunk. -/
theorem keepFrom_chars {k : Chunk} (hformed : k.Formed) (hknown : k.Recognized)
    (rest : List Char) : keepFrom .plain (k.chars ++ rest) = k.plain ++ keepFrom .plain rest := by
  cases k with
  | text cs => exact keepFrom_text hformed
  | control parameters final =>
    show keepFrom .parameters (parameters ++ [final] ++ rest) = keepFrom .plain rest
    rw [List.append_assoc, List.singleton_append]
    exact keepFrom_control hformed.1 hknown
  | command body bell => exact keepFrom_command hformed.1 hformed.2 bell
  | charset mark set =>
    have hmark : mark = '(' ∨ mark = ')' ∨ mark = '*' ∨ mark = '+' := by
      simpa [Chunk.Formed] using hformed
    rcases hmark with rfl | rfl | rfl | rfl <;> rfl
  | escape c =>
    rw [Chunk.chars, List.cons_append, List.cons_append, keepFrom_escape hformed, if_pos hknown]
    rfl

/-- **A chunk that is not recognized** goes wrong in front of some text: a control sequence takes
    the beginning of the text with it, up to a letter, and an escape character leaves the character
    that belongs to it. -/
theorem exists_text_of_not_recognized {k : Chunk} (hformed : k.Formed) (h : ¬ k.Recognized) :
    ∃ cs, escapeChar ∉ cs ∧ stripControlChars (k.chars ++ cs) ≠ k.plain ++ cs := by
  cases k with
  | text cs => exact absurd trivial h
  | control parameters final =>
    refine ⟨['a'], by decide, ?_⟩
    have hfinal : Chunk.endsControl final = false := Bool.eq_false_iff.mpr h
    have hall : ∀ c ∈ parameters ++ [final], (!Chunk.endsControl c) = true := by
      intro c hc
      rcases List.mem_append.mp hc with hc | hc
      · rw [not_endsControl_of_le (hformed.1 c hc).2]
        rfl
      · rw [List.mem_singleton.mp hc, hfinal]
        rfl
    have hstrip : keepFrom .parameters (parameters ++ [final] ++ ['a']) = [] := by
      rw [keepFrom_parameters, List.dropWhile_append_of_pos hall]
      rfl
    show keepFrom .parameters (parameters ++ [final] ++ ['a']) ≠ ['a']
    rw [hstrip]
    decide
  | command body bell => exact absurd trivial h
  | charset mark set => exact absurd trivial h
  | escape c =>
    refine ⟨[], List.not_mem_nil, ?_⟩
    show keepFrom .plain [escapeChar, c] ≠ []
    rw [keepFrom_escape hformed, if_neg h]
    exact List.cons_ne_nil c []

/-- What is left of chunks that are recognized, by induction on them. -/
theorem keepFrom_flatMap {chunks : List Chunk} (hformed : ∀ k ∈ chunks, k.Formed)
    (hknown : ∀ k ∈ chunks, k.Recognized) :
    keepFrom .plain (chunks.flatMap Chunk.chars) = chunks.flatMap Chunk.plain := by
  induction chunks with
  | nil => rfl
  | cons k chunks ih =>
    obtain ⟨hk, hchunks⟩ := List.forall_mem_cons.mp hformed
    obtain ⟨hk', hchunks'⟩ := List.forall_mem_cons.mp hknown
    rw [List.flatMap_cons, List.flatMap_cons, keepFrom_chars hk hk', ih hchunks hchunks']

end Reader

/-! ## 3. Texts -/

/-- **What is left of a text with control sequences that are recognized is the text**, whatever
    their parameters and however text and sequences follow each other: no character of the text is
    left out, and none of a sequence is kept. No other control sequence could be allowed here, since
    with each of them some text in front of which it stands comes out wrong. -/
theorem stripControls_flatMap (chunks : List Chunk) (hformed : ∀ k ∈ chunks, k.Formed) :
    ((∀ k ∈ chunks, k.Recognized) →
      stripControls (String.ofList (chunks.flatMap Chunk.chars)) =
        String.ofList (chunks.flatMap Chunk.plain)) ∧
    ∀ k ∈ chunks, ¬ k.Recognized → ∃ cs, escapeChar ∉ cs ∧
      stripControls (String.ofList (k.chars ++ cs)) ≠ String.ofList (k.plain ++ cs) := by
  constructor
  · intro hknown
    rw [stripControls, String.toList_ofList, stripControlChars, keepFrom_flatMap hformed hknown]
  · intro k hk hnot
    obtain ⟨cs, hcs, hwrong⟩ := exists_text_of_not_recognized (hformed k hk) hnot
    refine ⟨cs, hcs, ?_⟩
    rw [stripControls, String.toList_ofList]
    exact fun h => hwrong (String.ofList_injective h)

/-- A colour, a title, a character set and the mode of the keypad, with text around them. -/
theorem stripControls_flatMap_colour :
    (∀ k ∈ [Chunk.text ['a'], .control ['1', ';', '3', '2'] 'm', .text ['b', ' '],
      .command ['0', ';', 't'] false, .charset '(' 'B', .text ['\x07', 'c'], .escape '=',
      .text [']', 'd']], k.Formed) ∧
    stripControls "a\x1b[1;32mb \x1b]0;t\x1b\\\x1b(B\x07c\x1b=]d" = "ab \x07c]d" := by
  have hformed : ∀ k ∈ [Chunk.text ['a'], .control ['1', ';', '3', '2'] 'm', .text ['b', ' '],
      .command ['0', ';', 't'] false, .charset '(' 'B', .text ['\x07', 'c'], .escape '=',
      .text [']', 'd']], k.Formed := by decide
  exact ⟨hformed, (stripControls_flatMap _ hformed).1 (by decide)⟩

/-- **Of other control sequences too much is left out, or too little**: one that ends in a tilde
    takes a letter of the text behind it, and of the one that saves the cursor the digit stays. -/
theorem stripControls_tilde :
    ∃ chunks : List Chunk, (∀ k ∈ chunks, k.Formed) ∧
      String.ofList (chunks.flatMap Chunk.chars) = "\x1b[3~abc\x1b\x37def" ∧
      String.ofList (chunks.flatMap Chunk.plain) = "abcdef" ∧
      stripControls "\x1b[3~abc\x1b\x37def" = "bc7def" :=
  ⟨[.control ['3'] '~', .text ['a', 'b', 'c'], .escape '7', .text ['d', 'e', 'f']],
    by decide, by decide, by decide, by decide⟩

end DeviceCli.Screen
