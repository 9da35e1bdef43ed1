import DeviceCli.Screen.Links

/-!
# Cleaning a text in place

An `Editor` works on a screen with two cursors, one for each edit, before which that edit cannot
match. An edit moves its own cursor to the seam it leaves; the other cursor steps back to the seam
if it is behind it, since there the two sides of the seam may now match.

* `Editor.erase` and `Editor.overwrite` do one edit each;
* `Editor.run` does rounds of both until a round changes nothing. It ends because each edit makes
  the text shorter;
* `normalize` cleans a text, `eraseOnce` and `overwriteOnce` do one edit of it.
-/

namespace DeviceCli.Screen

/-- Some slots are those of the text, and each cursor is clear of the pairs that its edit looks
    for. -/
def Sound (s : Screen) (eraseAt overwriteAt : Nat) : Prop :=
  ∃ slots, s.Linked slots ∧ s.Clear erases slots eraseAt ∧ s.Clear overwrites slots overwriteAt

/-! ## 1. One edit -/

section Edit

variable {s t : Screen} {eraseAt overwriteAt cursor : Nat} {changed : Bool}

theorem clear_of_path {test : Char → Char → Bool} {slots : List Nat} {last : Nat}
    (hp : s.Path head slots last) (hn : NoPair test (slots.map s.char)) :
    s.Clear test slots last :=
  ⟨slots, [], (List.append_nil _).symm, hp, hn⟩

/-- **An erasure keeps the cursors sound.** -/
theorem Sound.erase (h : s.Sound eraseAt overwriteAt)
    (he : s.erase eraseAt = (changed, cursor, t)) :
    t.Sound cursor (if changed then min overwriteAt cursor else overwriteAt) := by
  obtain ⟨slots, hs, hce, hco⟩ := h
  rcases erase_cases hs hce with
    ⟨last, e, hp, hn⟩ | ⟨front, x, y, back, seam, u, rfl, e, hcut, _, hn⟩
  · obtain ⟨rfl, rfl, rfl⟩ : false = changed ∧ last = cursor ∧ s = t := by
      simpa using e.symm.trans he
    exact ⟨slots, hs, clear_of_path hp hn, hco⟩
  · obtain ⟨rfl, rfl, rfl⟩ : true = changed ∧ seam = cursor ∧ u = t := by
      simpa using e.symm.trans he
    rw [List.map_append] at hn
    exact ⟨_, hcut.new, hcut.clear_seam (noPair_of_append _ hn), hcut.clear_min hco⟩

/-- **An overwrite keeps the cursors sound.** -/
theorem Sound.overwrite (h : s.Sound eraseAt overwriteAt)
    (he : s.overwrite overwriteAt = (changed, cursor, t)) :
    t.Sound (if changed then min eraseAt cursor else eraseAt) cursor := by
  obtain ⟨slots, hs, hce, hco⟩ := h
  rcases overwrite_cases hs hco with
    ⟨last, e, hp, hn⟩ | ⟨front, line, x, y, back, seam, u, rfl, e, hcut, _, _, _, hn⟩
  · obtain ⟨rfl, rfl, rfl⟩ : false = changed ∧ last = cursor ∧ s = t := by
      simpa using e.symm.trans he
    exact ⟨slots, hs, hce, clear_of_path hp hn⟩
  · obtain ⟨rfl, rfl, rfl⟩ : true = changed ∧ seam = cursor ∧ u = t := by
      simpa using e.symm.trans he
    rw [List.append_assoc, List.map_append] at hn
    exact ⟨_, hcut.new, hcut.clear_min hce, hcut.clear_seam (noPair_of_append _ hn)⟩

end Edit

/-- A screen with a cursor for each edit. -/
structure Editor where
  screen : Screen
  eraseAt : Nat
  overwriteAt : Nat
  sound : screen.Sound eraseAt overwriteAt

namespace Editor

/-- The editor of a text, with the cursors in front of it. -/
def ofChars (text : List Char) : Editor where
  screen := Screen.ofChars text
  eraseAt := head
  overwriteAt := head
  sound := ⟨_, linked_ofChars text, clear_head .., clear_head ..⟩

/-- The text that is edited. -/
def text (e : Editor) : List Char := e.screen.toChars

/-- Does an erasure, and tells whether there was one. -/
def erase : Editor → Bool × Editor
  | ⟨screen, eraseAt, overwriteAt, sound⟩ =>
    match h : screen.erase eraseAt with
    | (changed, cursor, screen) =>
      (changed,
        { screen
          eraseAt := cursor
          overwriteAt := if changed then min overwriteAt cursor else overwriteAt
          sound := sound.erase h })

/-- Does an overwrite, and tells whether there was one. -/
def overwrite : Editor → Bool × Editor
  | ⟨screen, eraseAt, overwriteAt, sound⟩ =>
    match h : screen.overwrite overwriteAt with
    | (changed, cursor, screen) =>
      (changed,
        { screen
          eraseAt := if changed then min eraseAt cursor else eraseAt
          overwriteAt := cursor
          sound := sound.overwrite h })

/-! ## 2. Rounds -/

theorem length_of_cut {s t : Screen} {front cut back : List Nat} {seam : Nat}
    (h : Cut s t front cut back seam) :
    t.toChars.length + cut.length = s.toChars.length := by
  rw [toChars_of_linked h.old, toChars_of_linked h.new]
  simp only [List.length_map, List.length_append]
  omega

/-- An erasure takes two characters away, if it changes anything. -/
theorem length_erase (e : Editor) :
    e.erase.2.text.length + (if e.erase.1 then 2 else 0) = e.text.length := by
  obtain ⟨s, eraseAt, overwriteAt, slots, hs, hce, hco⟩ := e
  rcases erase_cases hs hce with ⟨last, h, _, _⟩ | ⟨front, x, y, back, seam, t, rfl, h, hcut, _, _⟩
  · simp [erase, text, h]
  · simpa [erase, text, h] using length_of_cut hcut

/-- An overwrite takes characters away, if it changes anything. -/
theorem length_overwrite (e : Editor) :
    e.overwrite.2.text.length + (if e.overwrite.1 then 1 else 0) ≤ e.text.length := by
  obtain ⟨s, eraseAt, overwriteAt, slots, hs, hce, hco⟩ := e
  rcases overwrite_cases hs hco with
    ⟨last, h, _, _⟩ | ⟨front, line, x, y, back, seam, t, rfl, h, hcut, _, _, _, _⟩
  · simp [overwrite, text, h]
  · have := length_of_cut hcut
    simp only [List.length_append, List.length_singleton] at this
    simp only [overwrite, text, h, if_true]
    omega

/-- Rounds of an erasure and then an overwrite, until a round changes nothing. -/
def run (e : Editor) : Editor :=
  match _h₁ : e.erase with
  | (erased, e₁) => match _h₂ : e₁.overwrite with
    | (overwritten, e₂) => if _h : erased || overwritten then run e₂ else e₂
  termination_by e.text.length
  decreasing_by
    have h₁ := e.length_erase
    have h₂ := e₁.length_overwrite
    simp only [_h₁] at h₁
    simp only [_h₂] at h₂
    cases erased <;> cases overwritten <;> simp_all <;> omega

end Editor

/-! ## 3. Texts -/

/-- Cleans a text until nothing changes any more. -/
def normalizeChars (text : List Char) : List Char :=
  if text.any fun c => c == backspace || c == '\r' then (Editor.ofChars text).run.text
  else text

/-- Removes the first character that is directly followed by a backspace. A backspace with
    nothing before it stays. -/
def eraseOnceChars (text : List Char) : List Char :=
  match (Editor.ofChars text).erase with
  | (true, e) => e.text
  | (false, _) => text

/-- Undoes the first overwriting of a line from its start. Carriage returns that end a line
    stay. -/
def overwriteOnceChars (text : List Char) : List Char :=
  match (Editor.ofChars text).overwrite with
  | (true, e) => e.text
  | (false, _) => text

/-- `normalizeChars` on strings. -/
def normalize (text : String) : String := String.ofList (normalizeChars text.toList)

/-- `eraseOnceChars` on strings. -/
def eraseOnce (text : String) : String := String.ofList (eraseOnceChars text.toList)

/-- `overwriteOnceChars` on strings. -/
def overwriteOnce (text : String) : String := String.ofList (overwriteOnceChars text.toList)

end DeviceCli.Screen
