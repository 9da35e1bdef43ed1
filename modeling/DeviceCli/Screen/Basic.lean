import DeviceCli.Screen.Edit

/-!
# A screen of linked slots

The edits of `DeviceCli.Screen.Edit`, done in place: the characters stand in slots that are
linked in text order, so that a removal moves nothing, and each edit scans on from a cursor
before which it cannot match.

* Slot 0 is the head, slot `i` holds the `i`-th character, and slot numbers only grow along the
  links, so comparing them compares positions and every scan comes to an end.
* `Screen.erase` and `Screen.overwrite` do one edit each and give the slot before what they
  removed, the seam.
-/

namespace DeviceCli

/-- Characters linked in text order. -/
structure Screen where
  chars : Array Char
  next : Array Nat
  prev : Array Nat
  size_pos : 0 < chars.size
  size_next : next.size = chars.size
  size_prev : prev.size = chars.size
  /-- links lead on, and at most behind the last slot -/
  lt_next : ∀ slot, slot < chars.size → slot < next.getD slot 0
  next_le : ∀ slot, next.getD slot 0 ≤ chars.size
  /-- links back lead back, that of the head to itself -/
  prev_le : ∀ slot, prev.getD slot 0 ≤ slot - 1

namespace Screen

/-- The slot before the text. -/
def head : Nat := 0

/-- The screen that shows a text. -/
def ofChars (text : List Char) : Screen where
  chars := ('\x00' :: text).toArray
  next := (Array.range (text.length + 1)).map (· + 1)
  prev := (Array.range (text.length + 1)).map (· - 1)
  size_pos := by simp
  size_next := by simp
  size_prev := by simp
  lt_next slot h := by
    have h : slot < text.length + 1 := by simpa using h
    simp [Array.getD, h]
  next_le slot := by
    simp only [Array.getD, Array.size_map, Array.size_range]
    split
    · simp
      omega
    · simp
  prev_le slot := by
    simp only [Array.getD, Array.size_map, Array.size_range]
    split <;> simp

variable (s : Screen)

/-- The number behind the last slot. -/
def finish : Nat := s.chars.size

/-- The character in a slot. -/
def char (slot : Nat) : Char := s.chars.getD slot '\x00'

/-- The linked slot behind a slot. -/
def after (slot : Nat) : Nat := s.next.getD slot s.finish

/-- The linked slot before a slot. -/
def before (slot : Nat) : Nat := s.prev.getD slot head

/-! ## 1. Links -/

theorem lt_after_of_lt {slot : Nat} (h : slot < s.finish) : slot < s.after slot := by
  have hs : slot < s.next.size := by rw [s.size_next]; exact h
  simpa [after, Array.getD, hs] using s.lt_next slot h

theorem lt_finish_of_after_ne {slot : Nat} (h : s.after slot ≠ s.finish) : slot < s.finish := by
  by_cases hs : slot < s.next.size
  · rw [s.size_next] at hs
    exact hs
  · exact absurd (by simp [after, Array.getD, hs]) h

/-- A link leads on, except from where the text has come to its end. -/
theorem lt_after {slot : Nat} (h : s.after slot ≠ s.finish) : slot < s.after slot :=
  s.lt_after_of_lt (s.lt_finish_of_after_ne h)

theorem after_le (slot : Nat) : s.after slot ≤ s.finish := by
  by_cases hs : slot < s.next.size
  · simpa [after, finish, Array.getD, hs] using s.next_le slot
  · simp [after, Array.getD, hs]

theorem after_lt {slot : Nat} (h : s.after slot ≠ s.finish) : s.after slot < s.finish :=
  Nat.lt_of_le_of_ne (s.after_le slot) h

theorem before_le (slot : Nat) : s.before slot ≤ slot - 1 := s.prev_le slot

theorem before_lt_after {first last : Nat} (h : first ≤ last) (hl : last < s.finish) :
    s.before first < s.after last := by
  have := s.before_le first
  have := s.lt_after_of_lt hl
  omega

theorem getD_setIfInBounds (a : Array Nat) (i j v d : Nat) :
    (a.setIfInBounds i v).getD j d = if i = j ∧ i < a.size then v else a.getD j d := by
  simp only [Array.getD_eq_getD_getElem?, Array.getElem?_setIfInBounds]
  by_cases hij : i = j
  · subst hij
    by_cases hi : i < a.size
    · simp [hi]
    · simp [hi]
  · simp [hij]

/-- Makes a slot, or the end of the text, follow an earlier slot. -/
def link (left right : Nat) (hl : left < right) (hr : right ≤ s.finish) : Screen :=
  match s with
  | ⟨chars, next, prev, size_pos, size_next, size_prev, lt_next, next_le, prev_le⟩ =>
    { chars
      next := next.setIfInBounds left right
      prev := if right = chars.size then prev else prev.setIfInBounds right left
      size_pos
      size_next := by simpa using size_next
      size_prev := by split <;> simpa using size_prev
      lt_next := fun slot hs => by
        rw [getD_setIfInBounds]
        split
        · omega
        · exact lt_next slot hs
      next_le := fun slot => by
        rw [getD_setIfInBounds]
        split
        · exact hr
        · exact next_le slot
      prev_le := fun slot => by
        split
        · exact prev_le slot
        · rw [getD_setIfInBounds]
          split
          · omega
          · exact prev_le slot }

/-- Detaches the slots from `first` to `last`, and gives the slot before them. -/
def unlink (first last : Nat) (h : first ≤ last) (hl : last < s.finish) : Nat × Screen :=
  let left := s.before first
  let right := s.after last
  (left, s.link left right (s.before_lt_after h hl) (s.after_le last))

/-! ## 2. Scans -/

/-- A slot with another one linked behind it. -/
abbrev Inner := { slot : Nat // s.after slot ≠ s.finish }

/-- Scans on from a slot for the first one that, with the one behind it, passes the test. Either
    the slot found, or the last slot. -/
@[specialize] def scan (test : Char → Char → Bool) (at_ : Nat) : s.Inner ⊕ Nat :=
  let next := s.after at_
  if h : next = s.finish then .inr at_
  else if at_ ≠ head ∧ test (s.char at_) (s.char next) = true then .inl ⟨at_, h⟩
  else scan test next
  termination_by s.finish - at_
  decreasing_by
    have := s.lt_after h
    have := s.lt_finish_of_after_ne h
    omega

/-- The first slot of the line that a slot is on: back to a line end or to the head. -/
def lineStart (start : Nat) : Nat :=
  let left := s.before start
  if left = head ∨ endsLine (s.char left) = true then start else lineStart left
  termination_by start
  decreasing_by
    rename_i h
    have := s.before_le start
    have : left ≠ 0 := fun e => h (.inl e)
    omega

theorem lineStart_le (start : Nat) : s.lineStart start ≤ start := by
  fun_induction s.lineStart start with
  | case1 => exact Nat.le_refl _
  | case2 start left _ ih =>
    have : left ≤ start - 1 := s.before_le start
    omega

/-- The characters in the slots linked behind a slot. -/
def charsAfter (slot : Nat) : List Char :=
  let next := s.after slot
  if _h : next = s.finish then [] else s.char next :: charsAfter next
  termination_by s.finish - slot
  decreasing_by
    have := s.lt_after _h
    have := s.lt_finish_of_after_ne _h
    omega

/-- The text on the screen. -/
def toChars : List Char := s.charsAfter head

/-! ## 3. Edits -/

/-- Erases the first character followed by a backspace, from the cursor on. Whether there was one,
    the new cursor, which is the seam if so, and the screen. -/
def erase (cursor : Nat) : Bool × Nat × Screen :=
  match s.scan erases cursor with
  | .inr last => (false, last, s)
  | .inl ⟨found, h⟩ =>
    (true, s.unlink found (s.after found) (Nat.le_of_lt (s.lt_after h)) (s.after_lt h))

/-- Drops the line prefix up to the first carriage return with more of its line behind it, from
    the cursor on. Whether there was one, the new cursor, which is the seam if so, and the
    screen. -/
def overwrite (cursor : Nat) : Bool × Nat × Screen :=
  match s.scan overwrites cursor with
  | .inr last => (false, last, s)
  | .inl ⟨found, h⟩ =>
    (true,
      s.unlink (s.lineStart found) found (s.lineStart_le found) (s.lt_finish_of_after_ne h))

end Screen

end DeviceCli
