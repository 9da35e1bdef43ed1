import DeviceCli.Proofs.Screen.Clean

/-!
# A backspace takes back what was written last

Where a text holds no carriage return, nothing of it is written over, and cleaning it comes down to
its backspaces. A terminal that reads the text once, from left to right, shows the same: each
backspace takes the last character back, and stays where there is none to take.

* `writeChar`, `written`: such a terminal;
* `writeChar_backspace`: a character and the backspace behind it leave what was there before, so
  `written_of_eraseFirst`: an erasure does not change what is shown;
* `foldl_writeChar`: nothing is taken back of a text without a pair to erase;
* `normalize_eq_written`: **cleaning a text without carriage returns, in one pass.**
-/

namespace DeviceCli.Screen

/-! ## 1. A terminal -/

/-- What is shown behind one more character: a backspace takes back the last one that is shown, if
    there is one and it is no backspace; any other character is shown behind the others. -/
def writeChar (shown : List Char) (c : Char) : List Char :=
  match shown.getLast? with
  | some d => if c = backspace ∧ d ≠ backspace then shown.dropLast else shown ++ [c]
  | none => shown ++ [c]

/-- What is shown of a text. -/
def written (text : List Char) : List Char := text.foldl writeChar []

section Write

variable {shown s t : List Char} {c : Char}

theorem writeChar_of_ne (shown : List Char) (h : c ≠ backspace) :
    writeChar shown c = shown ++ [c] := by
  unfold writeChar
  cases shown.getLast? with
  | none => rfl
  | some d => exact if_neg fun hc => h hc.1

/-- **A character and the backspace behind it** leave what was shown before them. -/
theorem writeChar_backspace (shown : List Char) (h : c ≠ backspace) :
    writeChar (writeChar shown c) backspace = shown := by
  rw [writeChar_of_ne shown h]
  simp [writeChar, h]

/-- A character that makes no pair with the last one is shown. -/
theorem writeChar_of_noPair (h : NoPair erases (shown ++ [c])) :
    writeChar shown c = shown ++ [c] := by
  rcases List.eq_nil_or_concat shown with rfl | ⟨front, d, rfl⟩
  · rfl
  · rw [List.concat_eq_append] at h ⊢
    have hpair : erases d c = false := noPair_iff.mp h front d c [] (by simp)
    have hstays : ¬ (c = backspace ∧ d ≠ backspace) := by
      intro htaken
      have htrue : erases d c = true := erases_eq_true_iff.mpr ⟨htaken.2, htaken.1⟩
      rw [htrue] at hpair
      cases hpair
    simp only [writeChar, List.getLast?_concat, if_neg hstays]

/-- **Nothing is taken back** of a text that makes no pair, by induction on it. -/
theorem foldl_writeChar (h : NoPair erases (shown ++ s)) : s.foldl writeChar shown = shown ++ s := by
  induction s generalizing shown with
  | nil => simp
  | cons c s ih =>
    rw [← List.singleton_append, ← List.append_assoc] at h
    rw [List.foldl_cons, writeChar_of_noPair (noPair_of_append s h), ih h, List.append_assoc,
      List.singleton_append]

/-- **An erasure does not change what is shown.** -/
theorem written_of_eraseFirst (h : eraseFirst s = some t) : written t = written s := by
  obtain ⟨front, c, back, rfl, hc, rfl, -⟩ := eraseFirst_eq_some_iff.mp h
  rw [written, written, List.foldl_append, List.foldl_append, List.foldl_cons, List.foldl_cons,
    writeChar_backspace _ hc]

/-! ## 2. Cleaning -/

/-- **What is cleaned is what a terminal shows**, by induction on the rounds: each of them is an
    erasure or nothing. -/
theorem settle_eq_written (h : '\r' ∉ s) : settle s = written s := by
  induction s using settle_induction with
  | clean s hclean =>
    obtain ⟨herase, -⟩ := clean_iff.mp hclean
    have hpair : NoPair erases ([] ++ s) := eraseFirst_eq_none_iff.mp herase
    rw [settle_of_clean hclean, written, foldl_writeChar hpair, List.nil_append]
  | step s ih =>
    have hround : '\r' ∉ round s := fun hr => h ((round_sublist s).subset hr)
    rw [settle_round, ih hround]
    cases herase : eraseFirst s with
    | none => rw [round, herase, Option.getD_none, overwriteFirst_of_notMem h, Option.getD_none]
    | some t =>
      have ht : '\r' ∉ t := fun hr => h ((sublist_of_eraseFirst herase).subset hr)
      rw [round, herase, Option.getD_some, overwriteFirst_of_notMem ht, Option.getD_none,
        written_of_eraseFirst herase]

end Write

/-- **Cleaning a text without carriage returns, in one pass.** Read from left to right, each
    backspace takes back the last character that is still there, if that one is no backspace, and
    stays otherwise; every other character stays, newlines included. -/
theorem normalize_eq_written (text : String) (h : '\r' ∉ text.toList) :
    normalize text = String.ofList (written text.toList) := by
  rw [normalize, normalizeChars_eq_settle, settle_eq_written h]

/-- Backspaces take back more than one character, a newline as well, and stay in front of it all. -/
theorem normalize_eq_written_newline :
    '\r' ∉ "a\x08\x08show\n\x08\x08p ip".toList ∧
      normalize "a\x08\x08show\n\x08\x08p ip" = "\x08shop ip" := by
  have hno : '\r' ∉ "a\x08\x08show\n\x08\x08p ip".toList := by decide
  exact ⟨hno, (normalize_eq_written _ hno).trans (by decide)⟩

end DeviceCli.Screen
