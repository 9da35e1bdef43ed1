import DeviceCli.Screen.Basic

/-!
# No look-up of a screen misses

A `Screen` answers with a default where a slot number is out of its arrays, and it holds proofs
that its links lead on. `Cells` are its three arrays with neither. Every look-up and every write of
theirs is checked, and so are the turns of every loop: an edit of cells gives nothing if it leaves
the arrays anywhere, and nothing either if it goes round more often than there are slots.

* `Cells.erase`, `Cells.overwrite`, `Cells.toChars`: the edits and the text, on cells;
* `next_cells`, `prev_cells`, `chars_cells`: a slot of the screen is in each of the arrays;
* `scan_cells`, `lineStart_cells`, `unlink_cells`: the parts of an edit, on cells and on the screen;
* `erase_cells`, `overwrite_cells`, `toChars_cells`: **from a slot of the screen nothing is
  missed**, and the cells come out as those of the screen.
-/

namespace DeviceCli.Screen

/-- The arrays of a screen, of any sizes and with any links. -/
structure Cells where
  chars : Array Char
  next : Array Nat
  prev : Array Nat

/-- The arrays of a screen. -/
def cells (s : Screen) : Cells := ⟨s.chars, s.next, s.prev⟩

/-! ## 1. Checked edits -/

namespace Cells

/-- Writes a link, if the slot is in the array. -/
def store (links : Array Nat) (slot link : Nat) : Option (Array Nat) :=
  if slot < links.size then some (links.setIfInBounds slot link) else none

variable (cells : Cells)

/-- The number behind the last slot. -/
def finish : Nat := cells.chars.size

/-- Whether a slot other than the head passes a test with the one behind it. Both characters are
    looked up, also where one of them would decide. -/
def passes (test : Char → Char → Bool) (at_ next : Nat) : Option Bool :=
  if at_ = head then some false
  else do return test (← cells.chars[at_]?) (← cells.chars[next]?)

/-- Scans on from a slot for the first one that, with the one behind it, passes the test, in so many
    turns. Either the two slots found, or the last slot. -/
def scan (test : Char → Char → Bool) : Nat → Nat → Option ((Nat × Nat) ⊕ Nat)
  | 0, _ => none
  | turns + 1, at_ => do
    let next ← cells.next[at_]?
    if next = cells.finish then return .inr at_
    else if ← cells.passes test at_ next then return .inl (at_, next)
    else scan test turns next

/-- Whether a line begins behind a slot. -/
def stops (left : Nat) : Option Bool :=
  if left = head then some true else cells.chars[left]?.map endsLine

/-- The first slot of the line that a slot is on, found in so many turns. -/
def lineStart : Nat → Nat → Option Nat
  | 0, _ => none
  | turns + 1, start => do
    let left ← cells.prev[start]?
    if ← cells.stops left then return start else lineStart turns left

/-- Detaches the slots from `first` to `last`, and gives the slot before them. -/
def unlink (first last : Nat) : Option (Nat × Cells) := do
  let left ← cells.prev[first]?
  let right ← cells.next[last]?
  let next ← store cells.next left right
  let prev ← if right = cells.finish then pure cells.prev else store cells.prev right left
  return (left, ⟨cells.chars, next, prev⟩)

/-- Erases the first character followed by a backspace, from the cursor on. -/
def erase (cursor : Nat) : Option (Bool × Nat × Cells) := do
  match ← cells.scan erases cells.finish cursor with
  | .inr last => return (false, last, cells)
  | .inl (found, next) => return (true, ← cells.unlink found next)

/-- Drops the line prefix up to the first carriage return with more of its line behind it, from
    the cursor on. -/
def overwrite (cursor : Nat) : Option (Bool × Nat × Cells) := do
  match ← cells.scan overwrites cells.finish cursor with
  | .inr last => return (false, last, cells)
  | .inl (found, _) =>
    return (true, ← cells.unlink (← cells.lineStart cells.finish found) found)

/-- The characters from a slot on, read in so many turns. -/
def charsFrom : Nat → Nat → Option (List Char)
  | 0, _ => none
  | turns + 1, slot => do
    if slot = cells.finish then return []
    else
      let c ← cells.chars[slot]?
      let next ← cells.next[slot]?
      return c :: (← charsFrom turns next)

/-- The text. -/
def toChars : Option (List Char) := do cells.charsFrom cells.finish (← cells.next[head]?)

theorem store_of_lt {links : Array Nat} {slot : Nat} (h : slot < links.size) (link : Nat) :
    store links slot link = some (links.setIfInBounds slot link) := if_pos h

end Cells

/-! ## 2. Look-ups -/

variable (s : Screen)

@[simp] theorem finish_cells : s.cells.finish = s.finish := rfl

section Slot

variable {s} {slot : Nat}

theorem next_cells (h : slot < s.finish) : s.cells.next[slot]? = some (s.after slot) := by
  have hs : slot < s.next.size := by rw [s.size_next]; exact h
  simp [cells, after, Array.getD, hs]

theorem prev_cells (h : slot < s.finish) : s.cells.prev[slot]? = some (s.before slot) := by
  have hs : slot < s.prev.size := by rw [s.size_prev]; exact h
  simp [cells, before, Array.getD, hs]

theorem chars_cells (h : slot < s.finish) : s.cells.chars[slot]? = some (s.char slot) := by
  have hs : slot < s.chars.size := h
  simp [cells, char, Array.getD, hs]

end Slot

theorem head_lt_finish : head < s.finish := s.size_pos

/-! ## 3. The parts of an edit -/

theorem passes_cells (test : Char → Char → Bool) {at_ next : Nat} (h : at_ < s.finish)
    (hn : next < s.finish) :
    s.cells.passes test at_ next =
      some (decide (at_ ≠ head ∧ test (s.char at_) (s.char next) = true)) := by
  by_cases hh : at_ = head <;> simp [Cells.passes, hh, chars_cells h, chars_cells hn]

/-- **A scan leaves no array**, by induction on its turns: the slots ascend, so there is one for
    each. -/
theorem scan_cells (test : Char → Char → Bool) {turns at_ : Nat} (h : at_ < s.finish)
    (ht : s.finish ≤ turns + at_) :
    s.cells.scan test turns at_ =
      some ((s.scan test at_).map (fun found => (found.1, s.after found.1)) id) := by
  induction turns generalizing at_ with
  | zero => omega
  | succ turns ih =>
    rw [Cells.scan, next_cells h, scan]
    by_cases hend : s.after at_ = s.finish
    · simp [hend]
    · have hnext : s.after at_ < s.finish := s.after_lt hend
      have hat : at_ < s.after at_ := s.lt_after hend
      by_cases htest : at_ ≠ head ∧ test (s.char at_) (s.char (s.after at_)) = true
      · simp [hend, s.passes_cells test h hnext, htest]
      · have ih := ih hnext (by omega)
        simp [hend, s.passes_cells test h hnext, htest, ih]

theorem stops_cells {left : Nat} (h : left < s.finish) :
    s.cells.stops left = some (decide (left = head ∨ endsLine (s.char left) = true)) := by
  by_cases hh : left = head <;> simp [Cells.stops, hh, chars_cells h]

/-- **Going back to where a line begins leaves no array**, by induction on the turns it takes. -/
theorem lineStart_cells {turns start : Nat} (h : start < s.finish) (ht : start < turns) :
    s.cells.lineStart turns start = some (s.lineStart start) := by
  induction turns generalizing start with
  | zero => omega
  | succ turns ih =>
    have hle : s.before start ≤ start - 1 := s.before_le start
    have hleft : s.before start < s.finish := by omega
    rw [Cells.lineStart, prev_cells h, lineStart]
    by_cases hstop : s.before start = head ∨ endsLine (s.char (s.before start)) = true
    · simp [s.stops_cells hleft, hstop]
    · have hne : s.before start ≠ 0 := fun e => hstop (.inl e)
      have ih := ih hleft (by omega)
      simp [s.stops_cells hleft, hstop, ih]

theorem cells_link {left right : Nat} (hl : left < right) (hr : right ≤ s.finish) :
    (s.link left right hl hr).cells =
      ⟨s.cells.chars, s.cells.next.setIfInBounds left right,
        if right = s.finish then s.cells.prev else s.cells.prev.setIfInBounds right left⟩ := rfl

/-- **Detaching slots leaves no array.** -/
theorem unlink_cells {first last : Nat} (h : first ≤ last) (hl : last < s.finish) :
    s.cells.unlink first last =
      some ((s.unlink first last h hl).1, (s.unlink first last h hl).2.cells) := by
  have hfirst : first < s.finish := Nat.lt_of_le_of_lt h hl
  have hlr := s.before_lt_after h hl
  have hr := s.after_le last
  have hleft : s.before first < s.cells.next.size := by
    rw [show s.cells.next.size = s.finish from s.size_next]
    omega
  show _ = some (s.before first, (s.link _ _ hlr hr).cells)
  rw [Cells.unlink, prev_cells hfirst, next_cells hl, cells_link]
  by_cases hend : s.after last = s.finish
  · simp [Cells.store_of_lt hleft, hend]
  · have hright : s.after last < s.cells.prev.size := by
      rw [show s.cells.prev.size = s.finish from s.size_prev]
      omega
    simp [Cells.store_of_lt hleft, Cells.store_of_lt hright, hend]

/-! ## 4. Edits -/

/-- **An erasure leaves no array**, from whatever slot it begins. -/
theorem erase_cells {cursor : Nat} (h : cursor < s.finish) :
    s.cells.erase cursor =
      some ((s.erase cursor).1, (s.erase cursor).2.1, (s.erase cursor).2.2.cells) := by
  rw [Cells.erase, finish_cells, s.scan_cells erases h (Nat.le_add_right _ _), erase]
  cases s.scan erases cursor with
  | inr last => rfl
  | inl found =>
    obtain ⟨found, hf⟩ := found
    have hle : found ≤ s.after found := Nat.le_of_lt (s.lt_after hf)
    simp [s.unlink_cells hle (s.after_lt hf)]

/-- **An overwrite leaves no array**, from whatever slot it begins. -/
theorem overwrite_cells {cursor : Nat} (h : cursor < s.finish) :
    s.cells.overwrite cursor =
      some ((s.overwrite cursor).1, (s.overwrite cursor).2.1, (s.overwrite cursor).2.2.cells) := by
  rw [Cells.overwrite, finish_cells, s.scan_cells overwrites h (Nat.le_add_right _ _), overwrite]
  cases s.scan overwrites cursor with
  | inr last => rfl
  | inl found =>
    obtain ⟨found, hf⟩ := found
    have hlt := s.lt_finish_of_after_ne hf
    simp [s.lineStart_cells hlt hlt, s.unlink_cells (s.lineStart_le found) hlt]

theorem charsFrom_cells {turns slot : Nat} (h : slot < s.finish) (ht : s.finish ≤ turns + slot) :
    s.cells.charsFrom turns (s.after slot) = some (s.charsAfter slot) := by
  induction turns generalizing slot with
  | zero => omega
  | succ turns ih =>
    rw [Cells.charsFrom, charsAfter]
    by_cases hend : s.after slot = s.finish
    · simp [hend]
    · have hnext : s.after slot < s.finish := s.after_lt hend
      have hslot : slot < s.after slot := s.lt_after hend
      have ih := ih hnext (by omega)
      simp [hend, chars_cells hnext, next_cells hnext, ih]

/-- **The text is read without leaving an array.** -/
theorem toChars_cells : s.cells.toChars = some s.toChars := by
  rw [Cells.toChars, next_cells s.head_lt_finish]
  exact s.charsFrom_cells s.head_lt_finish (Nat.le_refl _)

end DeviceCli.Screen
