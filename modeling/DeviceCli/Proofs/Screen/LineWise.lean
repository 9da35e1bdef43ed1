import DeviceCli.Proofs.Screen.Clean
import Mathlib.Data.List.DropRight

/-!
# Each line shows what was written last

A device that writes a line anew goes back to its start with a carriage return. Where nothing is
erased, cleaning a text is a matter of its lines alone: of each line what is behind the last
carriage return stays, and the carriage returns that end the line stay with it.

* `lastWritten`: what stays of a line;
* `lastWritten_of_overwriteFirst`: an overwrite does not change what stays of a line, and
  `lastWritten_of_stable`: a line that nothing is written over stays as it is;
* `settle_eq_lastWritten`: cleaning one line, by induction on the rounds;
* `cutAtMarks`, `joinAtMarks`: a text as lines with the marks between them;
* `normalize_eq_lineWise`: **cleaning a text without backspaces, line by line.**
-/

namespace DeviceCli.Screen

/-! ## 1. One line -/

/-- A character that ends a line, other than a carriage return. -/
def isMark (c : Char) : Bool := c == '\n' || c == '\u2028' || c == '\u2029'

/-- **What was written last on a line**: of what is in front of the carriage returns that end the
    line, the part behind the last carriage return; and those carriage returns. -/
def lastWritten (line : List Char) : List Char :=
  (line.rdropWhile (· == '\r')).rtakeWhile (· != '\r') ++ line.rtakeWhile (· == '\r')

section Line

variable {s t : List Char}

theorem endsLine_eq (c : Char) : endsLine c = (isMark c || c == '\r') := by
  simp only [endsLine, isMark]
  cases c == '\n' <;> cases c == '\r' <;> simp

theorem lastWritten_concat_return (s : List Char) :
    lastWritten (s ++ ['\r']) = lastWritten s ++ ['\r'] := by
  unfold lastWritten
  rw [List.rdropWhile_concat_pos _ _ _ (by decide), List.rtakeWhile_concat_pos _ _ _ (by decide),
    List.append_assoc]

theorem lastWritten_concat (s : List Char) {c : Char} (hc : c ≠ '\r') :
    lastWritten (s ++ [c]) = s.rtakeWhile (· != '\r') ++ [c] := by
  have hno : ¬ (c == '\r') = true := by simpa using hc
  have hyes : (c != '\r') = true := by simpa using hc
  unfold lastWritten
  rw [List.rdropWhile_concat_neg (· == '\r') s c hno,
    List.rtakeWhile_concat_neg (· == '\r') s c hno,
    List.rtakeWhile_concat_pos (· != '\r') s c hyes, List.append_nil]

/-- Behind the last carriage return is what is behind the last one of a text behind some carriage
    return. -/
theorem rtakeWhile_behind_return (front s : List Char) :
    (front ++ '\r' :: s).rtakeWhile (· != '\r') = s.rtakeWhile (· != '\r') := by
  induction s using List.reverseRecOn with
  | nil =>
    rw [List.rtakeWhile_concat_neg _ _ _ (by decide)]
    rfl
  | append_singleton s c ih =>
    rw [← List.cons_append, ← List.append_assoc, List.rtakeWhile_concat, List.rtakeWhile_concat, ih]

/-- What is in front of a carriage return with more of the line behind it does not stay. -/
theorem lastWritten_behind_return (front : List Char) {d : Char} (hd : d ≠ '\r')
    (back : List Char) : lastWritten (front ++ '\r' :: d :: back) = lastWritten (d :: back) := by
  induction back using List.reverseRecOn with
  | nil =>
    have hfront : front ++ ['\r', d] = front ++ ['\r'] ++ [d] := by simp
    have hone : lastWritten [d] = [d] := lastWritten_concat [] hd
    rw [hfront, lastWritten_concat _ hd, List.rtakeWhile_concat_neg _ _ _ (by decide), hone]
    rfl
  | append_singleton back c ih =>
    have hsplit : front ++ '\r' :: d :: (back ++ [c]) = front ++ '\r' :: d :: back ++ [c] := by simp
    rw [hsplit, ← List.cons_append]
    by_cases hc : c = '\r'
    · rw [hc, lastWritten_concat_return, lastWritten_concat_return, ih]
    · rw [lastWritten_concat _ hc, lastWritten_concat _ hc, rtakeWhile_behind_return]

/-- **An overwrite does not change what stays of a line.** -/
theorem lastWritten_of_overwriteFirst (hs : ∀ c ∈ s, isMark c = false)
    (h : overwriteFirst s = some t) : lastWritten t = lastWritten s := by
  obtain ⟨front, line, d, back, rfl, hd, hfront, -, rfl, -⟩ := overwriteFirst_eq_some_iff.mp h
  have hreturn : d ≠ '\r' := by
    intro hreturn
    rw [hreturn] at hd
    exact absurd hd (by decide)
  rw [← List.append_assoc, lastWritten_behind_return _ hreturn]
  rcases List.eq_nil_or_concat front with rfl | ⟨init, e, rfl⟩
  · rfl
  · -- the line end in front is no mark, so it is a carriage return, too
    have he : endsLine e = true := hfront e (by simp)
    have hmark : isMark e = false := hs e (by simp)
    have hcr : e = '\r' := by simpa [endsLine_eq, hmark] using he
    rw [List.concat_eq_append, List.append_assoc, List.singleton_append, hcr,
      lastWritten_behind_return _ hreturn]

/-- In front of a character that ends no line there is no carriage return, if nothing is written
    over. -/
theorem return_notMem_of_noPair (hs : ∀ c ∈ s, isMark c = false) {d : Char}
    (hd : endsLine d = false) (h : NoPair overwrites (s ++ [d])) : '\r' ∉ s := by
  induction s using List.reverseRecOn generalizing d with
  | nil => exact List.not_mem_nil
  | append_singleton s c ih =>
    have hpair : overwrites c d = false := noPair_iff.mp h s c d [] (by simp)
    have hc : c ≠ '\r' := by
      intro hc
      have htrue : overwrites c d = true := overwrites_eq_true_iff.mpr ⟨hc, hd⟩
      rw [htrue] at hpair
      cases hpair
    have hmark : isMark c = false := hs c (by simp)
    have hends : endsLine c = false := by simp [endsLine_eq, hmark, hc]
    have hfront : ∀ b ∈ s, isMark b = false := by
      intro b hb
      exact hs b (List.mem_append_left [c] hb)
    have hrest : '\r' ∉ s := ih hfront hends (noPair_of_append [d] h)
    simp [hrest, hc.symm]

/-- **A line that nothing is written over stays as it is.** -/
theorem lastWritten_of_stable (hs : ∀ c ∈ s, isMark c = false) (h : overwriteFirst s = none) :
    lastWritten s = s := by
  have hpair : NoPair overwrites s := overwriteFrom_eq_none_iff.mp h
  clear h
  induction s using List.reverseRecOn with
  | nil => rfl
  | append_singleton s c ih =>
    have hfront : ∀ b ∈ s, isMark b = false := by
      intro b hb
      exact hs b (List.mem_append_left [c] hb)
    by_cases hc : c = '\r'
    · rw [hc, lastWritten_concat_return, ih hfront (noPair_of_append [c] hpair)]
    · have hmark : isMark c = false := hs c (by simp)
      have hends : endsLine c = false := by simp [endsLine_eq, hmark, hc]
      have hreturn : '\r' ∉ s := return_notMem_of_noPair hfront hends hpair
      have hall : s.rtakeWhile (· != '\r') = s := by
        rw [List.rtakeWhile_eq_self_iff]
        intro b hb
        have hb' : b ≠ '\r' := by
          intro e
          exact hreturn (e ▸ hb)
        simpa using hb'
      rw [lastWritten_concat s hc, hall]

/-- **A line without backspaces is cleaned to what was written last on it**, by induction on the
    rounds. -/
theorem settle_eq_lastWritten (hs : ∀ c ∈ s, isMark c = false) (hb : backspace ∉ s) :
    settle s = lastWritten s := by
  induction s using settle_induction with
  | clean s hclean =>
    obtain ⟨-, hover⟩ := clean_iff.mp hclean
    rw [settle_of_clean hclean, lastWritten_of_stable hs hover]
  | step s ih =>
    have hround : round s = (overwriteFirst s).getD s := by
      rw [round, eraseFirst_of_notMem hb, Option.getD_none]
    cases h : overwriteFirst s with
    | none =>
      rw [hround, h, Option.getD_none] at ih
      exact ih hs hb
    | some t =>
      rw [hround, h, Option.getD_some] at ih
      have ht : ∀ c ∈ t, isMark c = false := by
        intro c hc
        exact hs c (mem_of_overwriteFirst h hc)
      have htb : backspace ∉ t := by
        intro hc
        exact hb (mem_of_overwriteFirst h hc)
      rw [settle_round, hround, h, Option.getD_some, ih ht htb, lastWritten_of_overwriteFirst hs h]

end Line

/-! ## 2. Lines -/

/-- A text cut at each mark: its first line, and the others with the mark in front of each. -/
def cutAtMarks : List Char → List Char × List (Char × List Char)
  | [] => ([], [])
  | c :: rest =>
    let (line, more) := cutAtMarks rest
    if isMark c then ([], (c, line) :: more) else (c :: line, more)

/-- Lines put together again, with the marks between them. -/
def joinAtMarks (line : List Char) : List (Char × List Char) → List Char
  | [] => line
  | (mark, next) :: more => line ++ mark :: joinAtMarks next more

/-- A text with each of its lines changed, and the marks between them kept in place. -/
def lineWise (change : List Char → List Char) (s : List Char) : List Char :=
  let (line, more) := cutAtMarks s
  joinAtMarks (change line) (more.map fun (mark, next) => (mark, change next))

theorem joinAtMarks_cons (c : Char) (line : List Char) (more : List (Char × List Char)) :
    joinAtMarks (c :: line) more = c :: joinAtMarks line more := by
  cases more with
  | nil => rfl
  | cons next more => rfl

/-- Cutting and joining gives the text back. -/
theorem joinAtMarks_cutAtMarks (s : List Char) :
    joinAtMarks (cutAtMarks s).1 (cutAtMarks s).2 = s := by
  induction s with
  | nil => rfl
  | cons c s ih =>
    rw [cutAtMarks]
    by_cases hc : isMark c = true
    · simp only [hc, if_true]
      rw [joinAtMarks, ih, List.nil_append]
    · simp only [hc, Bool.false_eq_true, if_false]
      rw [joinAtMarks_cons, ih]

/-- The lines hold no mark, and what is between them is one. -/
theorem cutAtMarks_spec (s : List Char) :
    (∀ c ∈ (cutAtMarks s).1, isMark c = false) ∧
    ∀ next ∈ (cutAtMarks s).2, isMark next.1 = true ∧ ∀ c ∈ next.2, isMark c = false := by
  induction s with
  | nil => exact ⟨fun c hc => absurd hc List.not_mem_nil, fun n hn => absurd hn List.not_mem_nil⟩
  | cons c s ih =>
    obtain ⟨hline, hmore⟩ := ih
    rw [cutAtMarks]
    by_cases hc : isMark c = true
    · simp only [hc, if_true]
      refine ⟨fun b hb => absurd hb List.not_mem_nil, ?_⟩
      exact List.forall_mem_cons.mpr ⟨⟨hc, hline⟩, hmore⟩
    · simp only [hc, Bool.false_eq_true, if_false]
      have hfalse : isMark c = false := Bool.eq_false_iff.mpr hc
      exact ⟨List.forall_mem_cons.mpr ⟨hfalse, hline⟩, hmore⟩

/-- **Lines are cleaned one by one**, by induction on them: both sides of a mark are cleaned by
    themselves. -/
theorem settle_joinAtMarks {line : List Char} {more : List (Char × List Char)}
    (hline : ∀ c ∈ line, isMark c = false)
    (hmore : ∀ next ∈ more, isMark next.1 = true ∧ ∀ c ∈ next.2, isMark c = false)
    (hb : backspace ∉ joinAtMarks line more) :
    settle (joinAtMarks line more) =
      joinAtMarks (lastWritten line) (more.map fun (mark, next) => (mark, lastWritten next)) := by
  induction more generalizing line with
  | nil => exact settle_eq_lastWritten hline hb
  | cons next more ih =>
    obtain ⟨mark, next⟩ := next
    obtain ⟨⟨hmark, hnext⟩, hrest⟩ := List.forall_mem_cons.mp hmore
    change isMark mark = true at hmark
    have hends : endsLine mark = true := by
      rw [endsLine_eq, hmark, Bool.true_or]
    have hreturn : mark ≠ '\r' := by
      intro hreturn
      rw [hreturn] at hmark
      exact absurd hmark (by decide)
    rw [joinAtMarks, List.mem_append, List.mem_cons, not_or, not_or] at hb
    obtain ⟨hbline, -, hbrest⟩ := hb
    rw [joinAtMarks, settle_append_cons line hends hreturn hbrest, ih hnext hrest hbrest,
      settle_eq_lastWritten hline hbline]
    rfl

/-- **Cleaning a text without backspaces, line by line.** The text is cut at each newline and at
    each line and paragraph separator, which stay in place. Of each line what was written last
    stays: with the carriage returns at its end set aside, the part behind its last carriage
    return. -/
theorem normalize_eq_lineWise (text : String) (h : '\x08' ∉ text.toList) :
    normalize text = String.ofList (lineWise lastWritten text.toList) := by
  obtain ⟨hline, hmore⟩ := cutAtMarks_spec text.toList
  have hjoin : joinAtMarks (cutAtMarks text.toList).1 (cutAtMarks text.toList).2 = text.toList :=
    joinAtMarks_cutAtMarks text.toList
  have hlines := settle_joinAtMarks hline hmore (hjoin.symm ▸ h)
  rw [hjoin] at hlines
  rw [normalize, normalizeChars_eq_settle, hlines]
  rfl

/-- A line may be overwritten more than once, and may end in more than one carriage return. -/
theorem normalize_eq_lineWise_twice :
    '\x08' ∉ "10%\r\r50%\r100%\r\r\nup\r\u2028down".toList ∧
    normalize "10%\r\r50%\r100%\r\r\nup\r\u2028down" = "100%\r\r\nup\r\u2028down" := by
  have hno : '\x08' ∉ "10%\r\r50%\r100%\r\r\nup\r\u2028down".toList := by decide
  exact ⟨hno, (normalize_eq_lineWise _ hno).trans (by decide)⟩

end DeviceCli.Screen
