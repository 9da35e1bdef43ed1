import DeviceCli.Proofs.Screen.Cells
import DeviceCli.Screen.Links
import Mathlib.Data.List.Chain

/-!
# Edits from anywhere keep the links

Slots that were cut out of a screen keep their links, which lead back into the text or to other
slots that were cut out. No edit comes across them if it begins at the head or at a slot of the
text, whichever edits were done before and wherever those began. (An editor begins only where
nothing in front of the cursor is left to edit, but that is not needed for the links.)

* `slotsFrom`: the slots of a text from a cursor on, where an edit looks;
* `Edited text s`: some edits of a text's screen have made `s`;
* `Threaded s`: the arrays hold the slots in ascending order, with links both ways;
* `Finds`, `Detached`: which run of slots an edit takes out, and what a screen without it is;
* `linked_of_edited`: the invariant of a whole run, from `run_cases`, which says what one edit does;
* `threaded_of_edited`: **links, bounds and effect of every edit** of such a run.
-/

namespace DeviceCli.Screen

/-! ## 1. The slots of a text -/

/-- The slots of the text from a cursor on. The head is none of them. -/
def slotsFrom (s : Screen) (cursor : Nat) : List Nat :=
  if cursor = head then s.slots else cursor :: s.slotsAfter cursor

/-- Read off the arrays of a screen, the slots of its text ascend, each is linked to the one before
    it, the first to the head, and the last one is linked to the end. -/
structure Threaded (s : Screen) : Prop where
  ascending : (head :: s.slots).Pairwise (· < ·)
  links : (head :: s.slots).IsChain fun x y => s.next[x]? = some y ∧ s.prev[y]? = some x
  ends : s.next[(head :: s.slots).getLast (List.cons_ne_nil _ _)]? = some s.finish

section Slots

variable {s : Screen} {left right slot cursor : Nat} {slots : List Nat}

theorem Path.isChain (h : s.Path left slots right) (hl : left < s.finish) :
    (left :: slots).IsChain fun x y => s.next[x]? = some y ∧ s.prev[y]? = some x := by
  induction slots generalizing left with
  | nil => exact .singleton _
  | cons slot slots ih =>
    obtain ⟨ha, hb, hlt, h⟩ := h
    exact .cons_cons ⟨ha ▸ next_cells hl, hb ▸ prev_cells hlt⟩ (ih h hlt)

theorem Path.ascending (h : s.Path left slots right) : (left :: slots).Pairwise (· < ·) := by
  induction slots generalizing left with
  | nil => exact List.pairwise_singleton _ _
  | cons slot slots ih => exact .cons (fun _ hm => h.lt_of_mem hm) (ih h.2.2.2)

theorem Path.getLast_eq (h : s.Path left slots right) :
    (left :: slots).getLast (List.cons_ne_nil _ _) = right := by
  induction slots generalizing left with
  | nil => exact h
  | cons slot slots ih =>
    rw [List.getLast_cons (List.cons_ne_nil _ _)]
    exact ih h.2.2.2

theorem Path.right_mem (h : s.Path left slots right) : right ∈ left :: slots :=
  h.getLast_eq ▸ List.getLast_mem _

theorem Path.right_lt (h : s.Path left slots right) (hl : left < s.finish) : right < s.finish := by
  induction slots generalizing left with
  | nil => exact (show left = right from h) ▸ hl
  | cons slot slots ih => exact ih h.2.2.2 h.2.2.1

/-- **The arrays of a screen whose links lead through its text.** -/
theorem threaded_of_linked (h : s.Linked slots) : s.Threaded := by
  obtain rfl := slots_of_linked h
  obtain ⟨last, hp, he⟩ := h
  refine ⟨hp.ascending, hp.isChain s.head_lt_finish, ?_⟩
  rw [hp.getLast_eq, ← he]
  exact next_cells (hp.right_lt s.head_lt_finish)

/-- **Where an edit may begin**: the slots in front of the cursor are skipped, and the cursor has
    passed no pair yet, since it has passed at most the slot that it is at. -/
theorem exists_skipped (h : s.Linked s.slots) (hc : cursor ∈ head :: s.slots) :
    cursor < s.finish ∧ ∃ skipped, s.slots = skipped ++ s.slotsFrom cursor ∧
      ∀ test, s.ClearFrom test skipped (s.slotsFrom cursor) cursor := by
  obtain ⟨last, hp, he⟩ := h
  by_cases hh : cursor = head
  · subst hh
    have hfrom : s.slotsFrom head = s.slots := if_pos rfl
    exact ⟨s.head_lt_finish, [], hfrom.symm, fun test =>
      ⟨[], s.slots, hfrom, rfl, fun _ => rfl, trivial⟩⟩
  · obtain ⟨skipped, back, e⟩ := List.append_of_mem ((List.mem_cons.mp hc).resolve_left hh)
    have hp' := e ▸ hp
    obtain ⟨seam, hf, ha, hb, hlt, hback⟩ := hp'.split
    have hfrom : s.slotsFrom cursor = [cursor] ++ back := by
      rw [slotsFrom, if_neg hh, slotsAfter_of_path hback he, List.singleton_append]
    refine ⟨hlt, skipped, e.trans (by rw [hfrom, List.singleton_append]), fun test => ?_⟩
    exact ⟨[cursor], back, hfrom, hf.append ⟨ha, hb, hlt, rfl⟩, nofun, trivial⟩

end Slots

/-! ## 2. Edits -/

/-- The edits of a screen. -/
inductive Edit where
  | erase
  | overwrite

namespace Edit

/-- The neighbours that an edit looks for. -/
def test : Edit → Char → Char → Bool
  | erase => erases
  | overwrite => overwrites

/-- Does an edit from a cursor: whether it found anything, the new cursor and the screen. -/
def run : Edit → Screen → Nat → Bool × Nat × Screen
  | erase => Screen.erase
  | overwrite => Screen.overwrite

/-- The same on the arrays of a screen. -/
def runCells : Edit → Cells → Nat → Option (Bool × Nat × Cells)
  | erase => Cells.erase
  | overwrite => Cells.overwrite

theorem runCells_cells (edit : Edit) (s : Screen) {cursor : Nat} (h : cursor < s.finish) :
    edit.runCells s.cells cursor =
      some ((edit.run s cursor).1, (edit.run s cursor).2.1, (edit.run s cursor).2.2.cells) := by
  cases edit with
  | erase => exact s.erase_cells h
  | overwrite => exact s.overwrite_cells h

end Edit

/-- The screens that edits make of a text's, in any order, each from the head or from a slot that is
    linked at the time. -/
inductive Edited (text : List Char) : Screen → Prop
  | start : Edited text (ofChars text)
  | step {s : Screen} (edit : Edit) {cursor : Nat} :
      Edited text s → cursor ∈ head :: s.slots → Edited text (edit.run s cursor).2.2

/-- The run of slots that an edit takes out, with those in front of it and behind it. It has to do
    with the first pair from the cursor on, `x` and `y`: an erasure takes the pair, an overwrite
    takes the line up to `x`, which may begin before the cursor. -/
inductive Finds (s : Screen) (cursor : Nat) : Edit → List Nat → List Nat → List Nat → Prop
  | erase {front passed back : List Nat} {x y : Nat} :
      s.slotsFrom cursor = passed ++ x :: y :: back → erases (s.char x) (s.char y) = true →
      NoPair erases ((passed ++ [x]).map s.char) →
      Finds s cursor .erase front [x, y] back
  | overwrite {front line passed back : List Nat} {x y : Nat} :
      s.slotsFrom cursor = passed ++ x :: y :: back → overwrites (s.char x) (s.char y) = true →
      NoPair overwrites ((passed ++ [x]).map s.char) →
      LineBehind (front.map s.char) → (∀ z ∈ line, endsLine (s.char z) = false) →
      Finds s cursor .overwrite front (line ++ [x]) (y :: back)

theorem Finds.ne_nil {s : Screen} {cursor : Nat} {edit : Edit} {front run back : List Nat}
    (h : Finds s cursor edit front run back) : run ≠ [] := by
  cases h <;> simp

/-- `t` is `s` without a run of slots, and shows the text of `s` without their characters. The seam
    is the slot in front of the run, or the head. -/
structure Detached (s t : Screen) (front run back : List Nat) (seam : Nat) : Prop where
  slots_old : s.slots = front ++ (run ++ back)
  slots_new : t.slots = front ++ back
  chars_old : s.toChars = front.map s.char ++ (run.map s.char ++ back.map s.char)
  chars_new : t.toChars = front.map s.char ++ back.map s.char
  seam_eq : seam = (head :: front).getLast (List.cons_ne_nil _ _)

theorem Cut.detached {s t : Screen} {front run back : List Nat} {seam : Nat}
    (h : Cut s t front run back seam) : Detached s t front run back seam where
  slots_old := slots_of_linked h.old
  slots_new := slots_of_linked h.new
  chars_old := by rw [toChars_of_linked h.old, List.map_append, List.map_append]
  chars_new := by rw [toChars_of_linked h.new, h.char_eq, List.map_append]
  seam_eq := h.front_old.getLast_eq.symm

section Detached

variable {s t : Screen} {front run back : List Nat} {seam : Nat}

theorem Detached.seam_mem (h : Detached s t front run back seam) : seam ∈ head :: t.slots := by
  have hm : seam ∈ head :: front := h.seam_eq ▸ List.getLast_mem _
  rw [h.slots_new, ← List.cons_append]
  exact List.mem_append_left _ hm

theorem Detached.length_lt (h : Detached s t front run back seam) (hr : run ≠ []) :
    t.toChars.length < s.toChars.length := by
  have := List.length_pos_iff.mpr hr
  rw [h.chars_old, h.chars_new]
  simp only [List.length_append, List.length_map]
  omega

end Detached

/-! ## 3. Runs -/

section Run

variable {s : Screen} {cursor : Nat}

/-- **One edit from the head or a slot of the text** finds nothing, or cuts a run of slots out. -/
theorem run_cases (edit : Edit) (h : s.Linked s.slots) (hc : cursor ∈ head :: s.slots) :
    (∃ last, edit.run s cursor = (false, last, s) ∧ last ∈ head :: s.slots ∧
      NoPair edit.test ((s.slotsFrom cursor).map s.char)) ∨
    (∃ front run back seam t, edit.run s cursor = (true, seam, t) ∧
      Cut s t front run back seam ∧ Finds s cursor edit front run back) := by
  obtain ⟨-, skipped, e, hclear⟩ := exists_skipped h hc
  have hs : s.Linked (skipped ++ s.slotsFrom cursor) := e ▸ h
  cases edit with
  | erase =>
    rcases erase_from hs (hclear erases) with
      ⟨last, hrun, hp, hn⟩ | ⟨front, x, y, back, seam, t, hfrom, hrun, hcut, hxy, hn⟩
    · exact .inl ⟨last, hrun, e ▸ hp.right_mem, hn⟩
    · exact .inr ⟨_, _, _, seam, t, hrun, hcut, .erase hfrom hxy hn⟩
  | overwrite =>
    rcases overwrite_from hs (hclear overwrites) with
      ⟨last, hrun, hp, hn⟩ |
      ⟨front, line, init, x, y, back, seam, t, hfrom, -, hrun, hcut, hb, hl, hxy, hn⟩
    · exact .inl ⟨last, hrun, e ▸ hp.right_mem, hn⟩
    · exact .inr ⟨_, _, _, seam, t, hrun, hcut, .overwrite hfrom hxy hn hb hl⟩

/-- **Through a whole run of edits the links lead through the text**, by induction on the run. -/
theorem linked_of_edited {text : List Char} (h : Edited text s) : s.Linked s.slots := by
  induction h with
  | start =>
    have hl := linked_ofChars text
    exact (slots_of_linked hl).symm ▸ hl
  | step edit _ hc ih =>
    rcases run_cases edit ih hc with ⟨_, hrun, -, -⟩ | ⟨_, _, _, _, _, hrun, hcut, -⟩
    · rw [hrun]
      exact ih
    · rw [hrun]
      exact (slots_of_linked hcut.new).symm ▸ hcut.new

end Run

/-- What an edit of `s` from a cursor comes to. No look-up misses and no loop takes more turns than
    there are slots. The new cursor is the head or a slot of the text. Where there is nothing to
    edit from the cursor on, the screen stays; otherwise the text gets shorter by the run of
    characters that the edit is about. -/
structure Effect (edit : Edit) (s : Screen) (cursor : Nat) (changed : Bool) (cursor' : Nat)
    (t : Screen) : Prop where
  runCells_eq : edit.runCells s.cells cursor = some (changed, cursor', t.cells)
  cursor_mem : cursor' ∈ head :: t.slots
  missed : changed = false → t = s ∧ NoPair edit.test ((s.slotsFrom cursor).map s.char)
  found : changed = true → t.toChars.length < s.toChars.length ∧
    ∃ front run back, Finds s cursor edit front run back ∧ Detached s t front run back cursor'

/-- **Links, bounds and effect of every edit.** The screen of a text shows the text. However it was
    edited so far, the slots of a screen are linked in ascending order from the head to the end, and
    back; and from the head or any slot of it, each edit stays in the arrays and does nothing but
    take its run of characters out. -/
theorem threaded_of_edited (text : List Char) :
    (ofChars text).toChars = text ∧
      ∀ s, Edited text s → s.Threaded ∧ s.cells.toChars = some s.toChars ∧
        ∀ (edit : Edit) (cursor : Nat), cursor ∈ head :: s.slots →
          ∃ changed cursor' t, edit.run s cursor = (changed, cursor', t) ∧
            Effect edit s cursor changed cursor' t := by
  refine ⟨toChars_ofChars text, fun s h => ?_⟩
  have hl := linked_of_edited h
  refine ⟨threaded_of_linked hl, s.toChars_cells, fun edit cursor hc => ?_⟩
  have hcells := edit.runCells_cells s (exists_skipped hl hc).1
  rcases run_cases edit hl hc with
    ⟨last, hrun, hlast, hn⟩ | ⟨front, run, back, seam, t, hrun, hcut, hfinds⟩
  · rw [hrun] at hcells
    exact ⟨_, _, _, hrun, hcells, hlast, fun _ => ⟨rfl, hn⟩, nofun⟩
  · rw [hrun] at hcells
    have hd := hcut.detached
    exact ⟨_, _, _, hrun, hcells, hd.seam_mem, nofun,
      fun _ => ⟨hd.length_lt hfinds.ne_nil, front, run, back, hfinds, hd⟩⟩

/-- With a pair erased at the front of the text, an overwrite that begins within a line takes the
    line from its start on, and the seam is the head. -/
theorem threaded_of_edited_line :
    let s := (Edit.erase.run (ofChars "a\x08bc\rd\x08".toList) head).2.2
    Edited "a\x08bc\rd\x08".toList s ∧ 5 ∈ head :: s.slots ∧ s.Threaded ∧
      ∃ t, Edit.overwrite.run s 5 = (true, head, t) ∧ Effect .overwrite s 5 true head t ∧
        t.toChars = "d\x08".toList := by
  intro s
  have hs : Edited "a\x08bc\rd\x08".toList s := .step .erase .start List.mem_cons_self
  have hc : 5 ∈ head :: s.slots := by decide +kernel
  obtain ⟨hthreaded, -, hedits⟩ := (threaded_of_edited _).2 s hs
  obtain ⟨changed, cursor', t, hrun, heffect⟩ := hedits .overwrite 5 hc
  have hresult : (Edit.overwrite.run s 5).1 = true ∧ (Edit.overwrite.run s 5).2.1 = head ∧
      (Edit.overwrite.run s 5).2.2.toChars = "d\x08".toList := by decide +kernel
  rw [hrun] at hresult
  obtain ⟨rfl, rfl, ht⟩ := hresult
  exact ⟨hs, hc, hthreaded, t, hrun, heffect, ht⟩

end DeviceCli.Screen
