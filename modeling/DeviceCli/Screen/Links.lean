import DeviceCli.Screen.Basic

/-!
# What the links of a screen hold

The links of a screen lead from the head through the slots of the text and back again. This file
says so once and derives from it what an edit does:

* `Path s left slots right`: from `left` the links lead through `slots`, the last of which is
  `right`, and the links back lead back;
* `Linked s slots`: `slots` are the slots of the text, those that the links lead to
  (`slots_of_linked`), and `toChars_of_linked` reads them;
* `Clear s test slots cursor`: before the cursor no two neighbours pass the test, which is why a
  scan may begin there; `ClearFrom` says it of the slots behind some that were skipped
  (`scan_cases`);
* `Cut s t front cut back seam`: `t` is `s` without the slots `cut`; a cursor that steps back to the
  seam stays clear (`Cut.clear_min`);
* `erase_from`, `overwrite_from`: an edit finds nothing behind the skipped slots, or cuts the first
  place it can; `erase_cases`, `overwrite_cases`: so it does in the whole text.
-/

namespace DeviceCli.Screen

/-! ## 1. Paths -/

/-- From `left`, the links lead through `slots` up to `right`, and back. -/
def Path (s : Screen) : Nat → List Nat → Nat → Prop
  | left, [], right => left = right
  | left, slot :: rest, right =>
    s.after left = slot ∧ s.before slot = left ∧ slot < s.finish ∧ Path s slot rest right

section Path

variable {s t : Screen} {left middle right : Nat} {front back : List Nat}

theorem Path.append (hf : s.Path left front middle) (hb : s.Path middle back right) :
    s.Path left (front ++ back) right := by
  induction front generalizing left with
  | nil =>
    have e : left = middle := hf
    rw [e]
    exact hb
  | cons slot front ih =>
    obtain ⟨ha, hbe, hlt, hf⟩ := hf
    exact ⟨ha, hbe, hlt, ih hf⟩

theorem Path.split (h : s.Path left (front ++ back) right) :
    ∃ middle, s.Path left front middle ∧ s.Path middle back right := by
  induction front generalizing left with
  | nil => exact ⟨left, rfl, h⟩
  | cons slot front ih =>
    obtain ⟨ha, hbe, hlt, h⟩ := h
    obtain ⟨middle, hf, hb⟩ := ih h
    exact ⟨middle, ⟨ha, hbe, hlt, hf⟩, hb⟩

theorem Path.right_unique {right' : Nat} (h : s.Path left front right)
    (h' : s.Path left front right') : right = right' := by
  induction front generalizing left with
  | nil => exact h.symm.trans h'
  | cons slot front ih => exact ih h.2.2.2 h'.2.2.2

/-- Slots ascend along a path. -/
theorem Path.le (h : s.Path left front right) : left ≤ right := by
  induction front generalizing left with
  | nil => exact Nat.le_of_eq h
  | cons slot front ih =>
    obtain ⟨rfl, _, hlt, h⟩ := h
    have : left < s.after left := s.lt_after (Nat.ne_of_lt hlt)
    exact Nat.le_trans (Nat.le_of_lt this) (ih h)

theorem Path.lt_of_cons {slot : Nat} (h : s.Path left (slot :: front) right) : left < right := by
  obtain ⟨rfl, _, hlt, h⟩ := h
  have : left < s.after left := s.lt_after (Nat.ne_of_lt hlt)
  exact Nat.lt_of_lt_of_le this h.le

/-- All slots of a path are behind its beginning. -/
theorem Path.lt_of_mem {slot : Nat} (h : s.Path left front right) (hm : slot ∈ front) :
    left < slot := by
  induction front generalizing left with
  | nil => exact absurd hm List.not_mem_nil
  | cons first front ih =>
    obtain ⟨rfl, _, hlt, h⟩ := h
    have hl : left < s.after left := s.lt_after (Nat.ne_of_lt hlt)
    rcases List.mem_cons.mp hm with rfl | hm
    · exact hl
    · exact Nat.lt_trans hl (ih h hm)

/-- The last slot of a path is where it ends, unless it is where it began. -/
theorem Path.eq_concat (h : s.Path left front right) (hne : left ≠ right) :
    ∃ init, front = init ++ [right] := by
  induction front generalizing left with
  | nil => exact absurd h hne
  | cons slot front ih =>
    obtain ⟨_, _, _, h⟩ := h
    by_cases e : slot = right
    · subst e
      cases front with
      | nil => exact ⟨[], rfl⟩
      | cons next front => exact absurd h.lt_of_cons (Nat.lt_irrefl _)
    · obtain ⟨init, rfl⟩ := ih h e
      exact ⟨slot :: init, rfl⟩

theorem Path.of_concat {last : Nat} (h : s.Path left (front ++ [last]) right) :
    right = last ∧ s.Path left front (s.before last) := by
  obtain ⟨middle, hf, _, hb, _, e⟩ := h.split
  exact ⟨e.symm, hb.symm ▸ hf⟩

/-- A path depends on the links between its ends only. -/
theorem Path.congr (hfin : t.finish = s.finish)
    (ha : ∀ slot, left ≤ slot → slot < right → t.after slot = s.after slot)
    (hb : ∀ slot, left < slot → slot ≤ right → t.before slot = s.before slot)
    (h : s.Path left front right) : t.Path left front right := by
  induction front generalizing left with
  | nil => exact h
  | cons slot front ih =>
    have hlr := h.lt_of_cons
    obtain ⟨rfl, hbe, hlt, h⟩ := h
    have hls : left < s.after left := s.lt_after (Nat.ne_of_lt hlt)
    refine ⟨ha left (Nat.le_refl _) hlr, ?_, hfin ▸ hlt, ih (fun x hx => ha x (by omega))
      (fun x hx => hb x (by omega)) h⟩
    rw [hb _ hls h.le, hbe]

end Path

/-! ## 2. The slots of a text -/

/-- The links lead through these slots and then to the end of the text. -/
def Linked (s : Screen) (slots : List Nat) : Prop :=
  ∃ last, s.Path head slots last ∧ s.after last = s.finish

/-- The slots linked behind a slot. -/
def slotsAfter (s : Screen) (slot : Nat) : List Nat :=
  let next := s.after slot
  if _h : next = s.finish then [] else next :: slotsAfter s next
  termination_by s.finish - slot
  decreasing_by
    have := s.lt_after _h
    have := s.lt_finish_of_after_ne _h
    omega

/-- The slots of the text, as the links lead to them. -/
def slots (s : Screen) : List Nat := s.slotsAfter head

theorem charsAfter_eq_map (s : Screen) (slot : Nat) :
    s.charsAfter slot = (s.slotsAfter slot).map s.char := by
  fun_induction s.slotsAfter slot with
  | case1 slot next hend =>
    rw [charsAfter]
    simp [show s.after slot = s.finish from hend]
  | case2 slot next hne ih =>
    rw [charsAfter]
    simp [show s.after slot ≠ s.finish from hne, ← ih, next]

theorem slotsAfter_of_path {s : Screen} {slot last : Nat} {slots : List Nat}
    (h : s.Path slot slots last) (he : s.after last = s.finish) : s.slotsAfter slot = slots := by
  induction slots generalizing slot with
  | nil =>
    have e : slot = last := h
    rw [slotsAfter, e]
    simp [he]
  | cons next slots ih =>
    obtain ⟨rfl, _, hlt, h⟩ := h
    rw [slotsAfter]
    simp [Nat.ne_of_lt hlt, ih h]

theorem slots_of_linked {s : Screen} {slots : List Nat} (h : s.Linked slots) : s.slots = slots := by
  obtain ⟨_, hp, he⟩ := h
  exact slotsAfter_of_path hp he

theorem toChars_of_linked {s : Screen} {slots : List Nat} (h : s.Linked slots) :
    s.toChars = slots.map s.char := by
  rw [← slots_of_linked h]
  exact s.charsAfter_eq_map head

/-- A text is put into the slots from 1 on. -/
theorem path_ofChars (text : List Char) (first n : Nat) (h : first + n = text.length) :
    (ofChars text).Path first (List.range' (first + 1) n) text.length := by
  induction n generalizing first with
  | zero => exact h
  | succ n ih =>
    have hf : first < text.length + 1 := by omega
    have hs : first + 1 < text.length + 1 := by omega
    refine ⟨?_, ?_, ?_, ih (first + 1) (by omega)⟩
    · simp [after, ofChars, Array.getD, hf]
    · simp [before, ofChars, Array.getD, hs]
    · simpa [finish, ofChars] using hs

theorem linked_ofChars (text : List Char) :
    (ofChars text).Linked (List.range' 1 text.length) := by
  refine ⟨text.length, path_ofChars text 0 text.length (Nat.zero_add _), ?_⟩
  simp [after, finish, ofChars, Array.getD]

theorem map_char_ofChars (text : List Char) :
    (List.range' 1 text.length).map (ofChars text).char = text := by
  apply List.ext_getElem
  · simp
  · intro i h₁ h₂
    simp [char, ofChars, Array.getD, Nat.add_comm 1 i, h₂]

theorem toChars_ofChars (text : List Char) : (ofChars text).toChars = text := by
  rw [toChars_of_linked (linked_ofChars text), map_char_ofChars]

/-! ## 3. Cutting slots out -/

section Link

variable (s : Screen) {left right : Nat} (hl : left < right) (hr : right ≤ s.finish)

@[simp] theorem finish_link : (s.link left right hl hr).finish = s.finish := rfl

@[simp] theorem char_link : (s.link left right hl hr).char = s.char := rfl

theorem after_link (slot : Nat) :
    (s.link left right hl hr).after slot = if left = slot then right else s.after slot := by
  have hs : left < s.next.size := by
    have := s.size_next
    have : right ≤ s.chars.size := hr
    omega
  show (s.next.setIfInBounds left right).getD slot s.finish = _
  rw [getD_setIfInBounds]
  simp only [hs, and_true]
  rfl

theorem before_link (slot : Nat) :
    (s.link left right hl hr).before slot =
      if right = slot ∧ right < s.finish then left else s.before slot := by
  show (if right = s.finish then s.prev else s.prev.setIfInBounds right left).getD slot head = _
  by_cases h : right = s.finish
  · have hn : ¬ right < s.finish := by omega
    rw [if_pos h, if_neg fun e => hn e.2]
    rfl
  · have hlt : right < s.finish := Nat.lt_of_le_of_ne hr h
    have hs : right < s.prev.size := by rw [s.size_prev]; exact hlt
    rw [if_neg h, getD_setIfInBounds]
    simp only [hs, hlt, and_true]
    rfl

end Link

/-- `t` shows what `s` does without the slots `cut`, which stand between `front` and `back`; the
    seam is the slot before them. -/
structure Cut (s t : Screen) (front cut back : List Nat) (seam : Nat) : Prop where
  old : s.Linked (front ++ (cut ++ back))
  new : t.Linked (front ++ back)
  front_old : s.Path head front seam
  front_new : t.Path head front seam
  char_eq : t.char = s.char

theorem Path.before_head {s : Screen} {left slot right : Nat} {rest : List Nat}
    (h : s.Path left (slot :: rest) right) : s.before slot = left := h.2.1

/-- **Detaching a piece of the text cuts it out.** -/
theorem cut_unlink {s : Screen} {front back : List Nat} (first last : Nat) (cut : List Nat)
    (h : s.Linked (front ++ ((first :: cut) ++ back)))
    (hcut : ∃ seam, s.Path seam (first :: cut) last) (hle : first ≤ last) (hlt : last < s.finish) :
    Cut s (s.unlink first last hle hlt).2 front (first :: cut) back
      (s.unlink first last hle hlt).1 := by
  obtain ⟨final, hp, hend⟩ := h
  obtain ⟨seam, hf, hp'⟩ := hp.split
  obtain ⟨last', hc, hb⟩ := hp'.split
  obtain ⟨seam', hc'⟩ := hcut
  obtain rfl : seam = s.before first := hc.before_head.symm
  obtain rfl : s.before first = seam' := hc'.before_head
  obtain rfl : last' = last := hc.right_unique hc'
  have hlr := s.before_lt_after hle hlt
  have hrf := s.after_le last'
  have hll : s.before first < last' := hc.lt_of_cons
  have hla := s.lt_after_of_lt hlt
  have hfront : (s.link _ _ hlr hrf).Path head front (s.before first) :=
    hf.congr (s.finish_link hlr hrf) (fun x _ hx => by rw [after_link, if_neg (by omega)])
      (fun x _ hx => by rw [before_link, if_neg (by omega)])
  refine ⟨⟨final, hp, hend⟩, ?_, hf, hfront, rfl⟩
  cases back with
  | nil =>
    -- nothing is left behind the piece, so the front is now the whole text
    obtain rfl : last' = final := hb
    refine ⟨s.before first, ?_, ?_⟩
    · rw [List.append_nil]
      exact hfront
    · show (s.link _ _ hlr hrf).after _ = _
      rw [after_link, if_pos rfl, hend]
      rfl
  | cons next back =>
    obtain ⟨rfl, _, hn, hb⟩ := hb
    have hback : (s.link _ _ hlr hrf).Path (s.after last') back final :=
      hb.congr (s.finish_link hlr hrf) (fun x hx _ => by rw [after_link, if_neg (by omega)])
        (fun x hx _ => by rw [before_link, if_neg (by omega)])
    have hend' : (s.link _ _ hlr hrf).after final = s.finish := by
      have := hb.le
      rw [after_link, if_neg (by omega), hend]
    refine ⟨final, hfront.append ⟨?_, ?_, hn, hback⟩, hend'⟩
    · rw [after_link, if_pos rfl]
    · rw [before_link, if_pos ⟨rfl, hn⟩]

/-! ## 4. Cursors -/

/-- The slots up to the cursor hold no two neighbours that pass the test. -/
def Clear (s : Screen) (test : Char → Char → Bool) (slots : List Nat) (cursor : Nat) : Prop :=
  ∃ done rest, slots = done ++ rest ∧ s.Path head done cursor ∧ NoPair test (done.map s.char)

theorem clear_head (s : Screen) (test : Char → Char → Bool) (slots : List Nat) :
    s.Clear test slots head :=
  ⟨[], slots, rfl, rfl, trivial⟩

/-- The same of the slots behind `skipped`, which nobody has looked at. A cursor that has passed
    none of the others stands in front of the text. -/
def ClearFrom (s : Screen) (test : Char → Char → Bool) (skipped slots : List Nat) (cursor : Nat) :
    Prop :=
  ∃ done rest, slots = done ++ rest ∧ s.Path head (skipped ++ done) cursor ∧
    (done = [] → skipped = []) ∧ NoPair test (done.map s.char)

theorem Clear.clearFrom {s : Screen} {test : Char → Char → Bool} {slots : List Nat} {cursor : Nat}
    (h : s.Clear test slots cursor) : s.ClearFrom test [] slots cursor := by
  obtain ⟨done, rest, e, hp, hn⟩ := h
  exact ⟨done, rest, e, hp, fun _ => rfl, hn⟩

section Cut

variable {s t : Screen} {test : Char → Char → Bool} {front cut back : List Nat} {seam cursor : Nat}

theorem Cut.clear_seam (h : Cut s t front cut back seam)
    (hn : NoPair test (front.map s.char)) : t.Clear test (front ++ back) seam :=
  ⟨front, back, rfl, h.front_new, h.char_eq ▸ hn⟩

/-- **A cursor that steps back to the seam stays clear**, wherever it was. -/
theorem Cut.clear_min (h : Cut s t front cut back seam)
    (hc : s.Clear test (front ++ (cut ++ back)) cursor) :
    t.Clear test (front ++ back) (min cursor seam) := by
  obtain ⟨done, rest, e, hp, hn⟩ := hc
  have hd : done <+: front ++ (cut ++ back) := ⟨rest, e.symm⟩
  rcases List.prefix_or_prefix_of_prefix hd (List.prefix_append _ _) with ⟨more, rfl⟩ | ⟨more, rfl⟩
  · -- the cursor is in front of the seam, and all that it has passed is still there
    obtain ⟨middle, hold, hrest⟩ := h.front_old.split
    obtain rfl : cursor = middle := hp.right_unique hold
    obtain ⟨middle, hnew, hrest'⟩ := h.front_new.split
    have hm : middle = cursor := by
      rcases List.eq_nil_or_concat done with rfl | ⟨init, last, rfl⟩
      · exact (show head = middle from hnew).symm.trans hp
      · rw [List.concat_eq_append] at hnew hp
        exact hnew.of_concat.1.trans hp.of_concat.1.symm
    rw [hm] at hnew
    rw [Nat.min_eq_left hrest.le]
    exact ⟨done, more ++ back, List.append_assoc .., hnew, h.char_eq ▸ hn⟩
  · -- the cursor is at the seam or behind it, so what is before the seam was passed
    obtain ⟨middle, hold, hrest⟩ := hp.split
    obtain rfl : seam = middle := h.front_old.right_unique hold
    rw [Nat.min_eq_right hrest.le]
    rw [List.map_append] at hn
    exact h.clear_seam (noPair_of_append _ hn)

end Cut

/-! ## 5. Scans -/

theorem noPair_concat {test : Char → Char → Bool} {front : List Char} {c d : Char}
    (h : NoPair test (front ++ [c])) (hcd : test c d = false) :
    NoPair test (front ++ [c] ++ [d]) := by
  rw [List.append_assoc, List.singleton_append, noPair_append_cons]
  exact ⟨h, hcd, trivial⟩

section Scan

variable {s : Screen} {test : Char → Char → Bool}

/-- **A scan from a clear place finds the first pair behind the skipped slots, or the last
    slot.** -/
theorem scan_of_path {skipped done rest : List Nat} {at_ last : Nat}
    (hd : s.Path head (skipped ++ done) at_) (hr : s.Path at_ rest last)
    (he : s.after last = s.finish) (hs : done = [] → skipped = [])
    (hn : NoPair test (done.map s.char)) :
    (∃ front x y back h, done ++ rest = front ++ x :: y :: back ∧
      s.scan test at_ = .inl ⟨x, h⟩ ∧ test (s.char x) (s.char y) = true ∧
      NoPair test ((front ++ [x]).map s.char)) ∨
    (s.scan test at_ = .inr last ∧ NoPair test ((done ++ rest).map s.char)) := by
  induction rest generalizing done at_ with
  | nil =>
    obtain rfl : at_ = last := hr
    right
    rw [scan]
    simpa [he] using hn
  | cons next rest ih =>
    have hstep : s.Path at_ [next] next := ⟨hr.1, hr.2.1, hr.2.2.1, rfl⟩
    obtain ⟨ha, _, hlt, hr⟩ := hr
    have hne : s.after at_ ≠ s.finish := ha ▸ Nat.ne_of_lt hlt
    -- the place is the head, or the last of the slots that were passed
    have hplace : at_ = head ∧ done = [] ∨ ∃ init, done = init ++ [at_] := by
      rcases List.eq_nil_or_concat done with rfl | ⟨init, x, rfl⟩
      · have hhead : head = at_ := by simpa [hs rfl, Path] using hd
        exact .inl ⟨hhead.symm, rfl⟩
      · rw [List.concat_eq_append, ← List.append_assoc] at hd
        exact .inr ⟨init, by rw [hd.of_concat.1, List.concat_eq_append]⟩
    by_cases hm : at_ ≠ head ∧ test (s.char at_) (s.char next) = true
    · rcases hplace with ⟨hh, -⟩ | ⟨init, rfl⟩
      · exact absurd hh hm.1
      · refine .inl ⟨init, at_, next, rest, hne, by simp, ?_, hm.2, hn⟩
        rw [scan]
        simp only [ha, Nat.ne_of_lt hlt, dite_false]
        rw [if_pos hm]
    · -- no pair ends at the next slot, so it is clear up to there
      have hn' : NoPair test ((done ++ [next]).map s.char) := by
        rcases hplace with ⟨-, rfl⟩ | ⟨init, rfl⟩
        · trivial
        · by_cases hh : at_ = head
          · rw [hh, ← List.append_assoc] at hd
            exact absurd (hd.lt_of_mem (by simp)) (Nat.lt_irrefl _)
          · have hf : test (s.char at_) (s.char next) = false := by
              simpa using fun e => hm ⟨hh, e⟩
            simp only [List.map_append, List.map_cons, List.map_nil] at hn ⊢
            exact noPair_concat hn hf
      have hscan : s.scan test at_ = s.scan test next := by
        rw [scan]
        simp only [ha, Nat.ne_of_lt hlt, dite_false]
        rw [if_neg hm]
      have hd' : s.Path head (skipped ++ (done ++ [next])) next := by
        rw [← List.append_assoc]
        exact hd.append hstep
      have := ih hd' hr (by simp) hn'
      simpa only [List.append_assoc, List.singleton_append, hscan] using this

/-- A scan that begins at a clear cursor. -/
theorem scan_cases {skipped slots : List Nat} {cursor : Nat} (hs : s.Linked (skipped ++ slots))
    (hc : s.ClearFrom test skipped slots cursor) :
    (∃ front x y back h, slots = front ++ x :: y :: back ∧ s.scan test cursor = .inl ⟨x, h⟩ ∧
      test (s.char x) (s.char y) = true ∧ NoPair test ((front ++ [x]).map s.char)) ∨
    (∃ last, s.scan test cursor = .inr last ∧ s.Path head (skipped ++ slots) last ∧
      NoPair test (slots.map s.char)) := by
  obtain ⟨last, hp, he⟩ := hs
  obtain ⟨done, rest, rfl, hd, hskip, hn⟩ := hc
  have hp' := hp
  rw [← List.append_assoc] at hp'
  obtain ⟨middle, hd', hr⟩ := hp'.split
  obtain rfl : cursor = middle := hd.right_unique hd'
  rcases scan_of_path hd hr he hskip hn with h | ⟨hscan, hn'⟩
  · exact .inl h
  · exact .inr ⟨last, hscan, hp, hn'⟩

/-- Back from the last slot of a line, `lineStart` stops where the line begins. -/
theorem lineStart_of_path {front line : List Nat} {seam x : Nat} (hf : s.Path head front seam)
    (hl : s.Path seam (line ++ [x]) x) (hb : LineBehind (front.map s.char))
    (hn : ∀ y ∈ line, endsLine (s.char y) = false) :
    ∃ rest, line ++ [x] = s.lineStart x :: rest := by
  fun_induction s.lineStart x generalizing line with
  | case1 x left =>
    rename_i hstop
    rcases List.eq_nil_or_concat line with rfl | ⟨init, y, rfl⟩
    · exact ⟨[], rfl⟩
    · rw [List.concat_eq_append] at hl hn
      obtain ⟨hy, -⟩ := hl.of_concat.2.of_concat
      have hy0 : head < y := Nat.lt_of_le_of_lt hf.le (hl.lt_of_mem (by simp))
      rcases hstop with h | h
      · exact absurd (hy.symm.trans h) (Nat.ne_of_gt hy0)
      · have : endsLine (s.char (s.before x)) = false := hy ▸ hn y (by simp)
        exact absurd h (by simp [left, this])
  | case2 x left hgo =>
    rename_i ih
    rcases List.eq_nil_or_concat line with rfl | ⟨init, y, rfl⟩
    · -- before the line stands the head or a line end, and there the way back has stopped
      obtain rfl : left = seam := hl.before_head
      refine absurd ?_ hgo
      by_cases h0 : head = left
      · exact .inl h0.symm
      · obtain ⟨init, rfl⟩ := hf.eq_concat h0
        exact .inr (hb _ (by simp))
    · rw [List.concat_eq_append] at hl hn ⊢
      have hl' := hl.of_concat.2
      obtain ⟨hy, -⟩ := hl'.of_concat
      obtain rfl : left = y := hy
      obtain ⟨rest, e⟩ := ih hl' fun z hz => hn z (List.mem_append_left _ hz)
      exact ⟨rest ++ [x], by rw [e, List.cons_append]⟩

end Scan

/-! ## 6. Edits -/

section Edit

variable {s : Screen} {skipped slots : List Nat} {cursor : Nat}

/-- **An erasure finds no pair behind the skipped slots, or cuts the first one.** -/
theorem erase_from (hs : s.Linked (skipped ++ slots))
    (hc : s.ClearFrom erases skipped slots cursor) :
    (∃ last, s.erase cursor = (false, last, s) ∧ s.Path head (skipped ++ slots) last ∧
      NoPair erases (slots.map s.char)) ∨
    (∃ front x y back seam t, slots = front ++ ([x, y] ++ back) ∧
      s.erase cursor = (true, seam, t) ∧ Cut s t (skipped ++ front) [x, y] back seam ∧
      erases (s.char x) (s.char y) = true ∧ NoPair erases ((front ++ [x]).map s.char)) := by
  rcases scan_cases hs hc with ⟨front, x, y, back, h, rfl, hscan, hxy, hn⟩ | ⟨last, hscan, hp, hn⟩
  · right
    rw [← List.append_assoc] at hs
    obtain ⟨final, hp, hend⟩ := hs
    obtain ⟨seam, hf, hp'⟩ := hp.split
    obtain ⟨rfl, hb, hx, rfl, hby, hy, hback⟩ := hp'
    have hxy' : s.Path seam [s.after seam, s.after (s.after seam)] (s.after (s.after seam)) :=
      ⟨rfl, hb, hx, rfl, hby, hy, rfl⟩
    refine ⟨front, _, _, back, _, _, rfl, ?_, cut_unlink _ _ _ ⟨final, hp, hend⟩ ⟨seam, hxy'⟩
      (Nat.le_of_lt (s.lt_after h)) (s.after_lt h), hxy, hn⟩
    rw [erase, hscan]
  · left
    refine ⟨last, ?_, hp, hn⟩
    rw [erase, hscan]

/-- **An erasure finds no pair in the whole text, or cuts the first one.** -/
theorem erase_cases (hs : s.Linked slots) (hc : s.Clear erases slots cursor) :
    (∃ last, s.erase cursor = (false, last, s) ∧ s.Path head slots last ∧
      NoPair erases (slots.map s.char)) ∨
    (∃ front x y back seam t, slots = front ++ ([x, y] ++ back) ∧
      s.erase cursor = (true, seam, t) ∧ Cut s t front [x, y] back seam ∧
      erases (s.char x) (s.char y) = true ∧ NoPair erases ((front ++ [x]).map s.char)) :=
  erase_from hs hc.clearFrom

/-- **An overwrite finds no carriage return with more of its line behind it, or cuts the line up to
    the first one behind the skipped slots.** The line may begin in those. -/
theorem overwrite_from (hs : s.Linked (skipped ++ slots))
    (hc : s.ClearFrom overwrites skipped slots cursor) :
    (∃ last, s.overwrite cursor = (false, last, s) ∧ s.Path head (skipped ++ slots) last ∧
      NoPair overwrites (slots.map s.char)) ∨
    (∃ front line init x y back seam t, slots = init ++ x :: y :: back ∧
      skipped ++ init = front ++ line ∧
      s.overwrite cursor = (true, seam, t) ∧ Cut s t front (line ++ [x]) (y :: back) seam ∧
      LineBehind (front.map s.char) ∧ (∀ z ∈ line, endsLine (s.char z) = false) ∧
      overwrites (s.char x) (s.char y) = true ∧
      NoPair overwrites ((init ++ [x]).map s.char)) := by
  rcases scan_cases hs hc with ⟨init, x, y, back, h, rfl, hscan, hxy, hn⟩ | ⟨last, hscan, hp, hn⟩
  · right
    obtain ⟨_, _, e, hb, hline⟩ := exists_line ((skipped ++ init).map s.char)
    obtain ⟨front, line, hinit, rfl, rfl⟩ := List.map_eq_append_iff.mp e
    have hline : ∀ z ∈ line, endsLine (s.char z) = false := by simpa using hline
    have e : skipped ++ (init ++ x :: y :: back) = front ++ ((line ++ [x]) ++ y :: back) := by
      rw [← List.append_assoc, hinit]
      simp
    rw [e] at hs
    have hs' := hs
    obtain ⟨final, hp, hend⟩ := hs'
    obtain ⟨seam, hf, hp'⟩ := hp.split
    obtain ⟨x', hl, hback⟩ := hp'.split
    obtain rfl : x' = x := hl.of_concat.1
    obtain ⟨rest, hrest⟩ := lineStart_of_path hf hl hb hline
    have hcut := cut_unlink (s.lineStart x') x' rest (hrest ▸ hs)
      ⟨seam, hrest ▸ hl⟩ (s.lineStart_le x') (s.lt_finish_of_after_ne h)
    rw [← hrest] at hcut
    refine ⟨front, line, init, x', y, back, _, _, rfl, hinit, ?_, hcut, hb, hline, hxy, hn⟩
    rw [overwrite, hscan]
  · left
    refine ⟨last, ?_, hp, hn⟩
    rw [overwrite, hscan]

/-- **An overwrite finds no carriage return with more of its line behind it, or cuts the line up to
    the first one.** -/
theorem overwrite_cases (hs : s.Linked slots) (hc : s.Clear overwrites slots cursor) :
    (∃ last, s.overwrite cursor = (false, last, s) ∧ s.Path head slots last ∧
      NoPair overwrites (slots.map s.char)) ∨
    (∃ front line x y back seam t, slots = front ++ ((line ++ [x]) ++ y :: back) ∧
      s.overwrite cursor = (true, seam, t) ∧ Cut s t front (line ++ [x]) (y :: back) seam ∧
      LineBehind (front.map s.char) ∧ (∀ z ∈ line, endsLine (s.char z) = false) ∧
      overwrites (s.char x) (s.char y) = true ∧
      NoPair overwrites ((front ++ line ++ [x]).map s.char)) := by
  rcases overwrite_from hs hc.clearFrom with
    h | ⟨front, line, init, x, y, back, seam, t, rfl, hinit, e, hcut, hb, hline, hxy, hn⟩
  · exact .inl h
  · obtain rfl : init = front ++ line := hinit
    exact .inr ⟨front, line, x, y, back, seam, t, by simp, e, hcut, hb, hline, hxy, hn⟩

end Edit

end DeviceCli.Screen
