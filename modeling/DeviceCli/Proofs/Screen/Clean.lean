import DeviceCli.Proofs.Screen.Lines

/-!
# What a cleaned text looks like

Cleaning goes on until neither edit applies. Each edit may bring about a place for the other one, so
what is left when both have come to their end is said here of the text itself.

* `noPair_erases_iff`, `noPair_overwrites_iff`: texts in which nothing is erased, and nothing is
  written over;
* `Clean`: both at once, and `clean_iff`: the texts to which neither edit applies;
* `clean_settle`, `settle_sublist`: cleaning, by induction on its rounds;
* `clean_normalize`: **cleaning leaves out characters until the text is clean**, and nothing else.
-/

namespace DeviceCli.Screen

/-! ## 1. Clean texts -/

section Pair

variable {s : List Char}

/-- Behind a character that is no backspace there is none, if nothing is erased. -/
theorem notMem_of_noPair {c : Char} (hc : c ≠ backspace) (h : NoPair erases (c :: s)) :
    backspace ∉ s := by
  induction s generalizing c with
  | nil => exact List.not_mem_nil
  | cons d s ih =>
    obtain ⟨hcd, hs⟩ := h
    have hd : d ≠ backspace := by
      intro hd
      have htrue : erases c d = true := erases_eq_true_iff.mpr ⟨hc, hd⟩
      rw [htrue] at hcd
      cases hcd
    have hrest : backspace ∉ s := ih hd hs
    simp [hd.symm, hrest]

/-- **Nothing is erased** in a text whose backspaces are all in front, with nothing before them. -/
theorem noPair_erases_iff :
    NoPair erases s ↔
      ∃ count plain, s = List.replicate count backspace ++ plain ∧ backspace ∉ plain := by
  constructor
  · intro h
    induction s with
    | nil => exact ⟨0, [], rfl, List.not_mem_nil⟩
    | cons c s ih =>
      by_cases hc : c = backspace
      · have hs : NoPair erases s := by
          cases s with
          | nil => trivial
          | cons d s => exact h.2
        obtain ⟨count, plain, rfl, hplain⟩ := ih hs
        exact ⟨count + 1, plain, by rw [hc, List.replicate_succ, List.cons_append], hplain⟩
      · have hs : backspace ∉ s := notMem_of_noPair hc h
        exact ⟨0, c :: s, rfl, by simp [Ne.symm hc, hs]⟩
  · intro h
    obtain ⟨count, plain, rfl, hplain⟩ := h
    induction count with
    | zero => exact eraseFirst_eq_none_iff.mp (eraseFirst_of_notMem hplain)
    | succ count ih =>
      rw [List.replicate_succ, List.cons_append]
      cases h : List.replicate count backspace ++ plain with
      | nil => trivial
      | cons d rest =>
        have hfirst : erases backspace d = false := by simp [erases]
        exact ⟨hfirst, h ▸ ih⟩

/-- **Nothing is written over** in a text whose carriage returns each end it, or are in front of a
    line end. -/
theorem noPair_overwrites_iff :
    NoPair overwrites s ↔ ∀ front d back, s = front ++ '\r' :: d :: back → endsLine d = true := by
  rw [noPair_iff]
  constructor
  · intro h front d back hs
    have hpair : overwrites '\r' d = false := h front '\r' d back hs
    simpa [overwrites] using hpair
  · intro h front c d back hs
    by_cases hc : c = '\r'
    · subst hc
      have hd : endsLine d = true := h front d back hs
      simp [overwrites, hd]
    · simp [overwrites, hc]

/-- Backspaces in front of a text do not matter for what is written over. -/
theorem noPair_overwrites_replicate (count : Nat) :
    NoPair overwrites (List.replicate count backspace ++ s) ↔ NoPair overwrites s := by
  induction count with
  | zero => exact Iff.rfl
  | succ count ih =>
    rw [List.replicate_succ, List.cons_append, ← ih]
    cases List.replicate count backspace ++ s with
    | nil => exact Iff.rfl
    | cons d rest =>
      have hd : overwrites backspace d = false := by simp [overwrites, backspace]
      exact and_iff_right hd

theorem endsLine_iff {c : Char} :
    endsLine c = true ↔ c ∈ ['\n', '\r', '\u2028', '\u2029'] := by
  simp [endsLine, or_assoc]

end Pair

/-- **A clean text**: some backspaces, and behind them a text without any, in which each carriage
    return is the last character or has a line end behind it. -/
def Clean (s : List Char) : Prop :=
  ∃ count plain, s = List.replicate count '\x08' ++ plain ∧ '\x08' ∉ plain ∧
    ∀ front d back, plain = front ++ '\r' :: d :: back → d ∈ ['\n', '\r', '\u2028', '\u2029']

/-- The clean texts are those to which neither edit applies. -/
theorem clean_iff {s : List Char} : Clean s ↔ eraseFirst s = none ∧ overwriteFirst s = none := by
  have hclean : Clean s ↔ ∃ count plain, s = List.replicate count backspace ++ plain ∧
      backspace ∉ plain ∧ NoPair overwrites plain := by
    simp only [Clean, ← endsLine_iff, ← noPair_overwrites_iff, backspace]
  rw [hclean, eraseFirst_eq_none_iff, overwriteFirst, overwriteFrom_eq_none_iff]
  constructor
  · intro h
    obtain ⟨count, plain, rfl, hplain, hover⟩ := h
    exact ⟨noPair_erases_iff.mpr ⟨count, plain, rfl, hplain⟩,
      (noPair_overwrites_replicate count).mpr hover⟩
  · intro h
    obtain ⟨herase, hover⟩ := h
    obtain ⟨count, plain, rfl, hplain⟩ := noPair_erases_iff.mp herase
    exact ⟨count, plain, rfl, hplain, (noPair_overwrites_replicate count).mp hover⟩

/-! ## 2. Cleaning -/

section Settle

variable {s t : List Char}

/-- An erasure leaves out two characters. -/
theorem sublist_of_eraseFirst (h : eraseFirst s = some t) : t.Sublist s := by
  obtain ⟨front, c, back, rfl, -, rfl, -⟩ := eraseFirst_eq_some_iff.mp h
  have hback : back.Sublist (c :: backspace :: back) := .cons c (.cons backspace (.refl back))
  exact (List.Sublist.refl front).append hback

/-- An overwrite leaves out the front of a line. -/
theorem sublist_of_overwriteFirst (h : overwriteFirst s = some t) : t.Sublist s := by
  obtain ⟨front, line, d, back, rfl, -, -, -, rfl, -⟩ := overwriteFirst_eq_some_iff.mp h
  have hback : (d :: back).Sublist ('\r' :: d :: back) := .cons '\r' (.refl (d :: back))
  exact (List.Sublist.refl front).append (hback.trans (List.sublist_append_right line _))

theorem round_sublist (s : List Char) : (round s).Sublist s := by
  have herased : ((eraseFirst s).getD s).Sublist s := by
    cases h : eraseFirst s with
    | none => exact .refl s
    | some t => exact sublist_of_eraseFirst h
  unfold round
  dsimp only
  cases h : overwriteFirst ((eraseFirst s).getD s) with
  | none => exact herased
  | some t => exact (sublist_of_overwriteFirst h).trans herased

theorem settle_of_clean (h : Clean s) : settle s = s := by
  obtain ⟨he, ho⟩ := clean_iff.mp h
  exact settle_of_stable he ho

/-- What holds of clean texts, and of a text if it holds behind a round of it, holds of all texts:
    each round of a text that is not clean makes it shorter. -/
theorem settle_induction {motive : List Char → Prop} (clean : ∀ s, Clean s → motive s)
    (step : ∀ s, motive (round s) → motive s) (s : List Char) : motive s := by
  induction hn : s.length using Nat.strongRecOn generalizing s with
  | ind n ih =>
    by_cases hs : Clean s
    · exact clean s hs
    · have hlt : (round s).length < s.length := by
        refine length_round_lt ?_
        intro h
        exact hs (clean_iff.mpr h)
      exact step s (ih (round s).length (hn ▸ hlt) (round s) rfl)

/-- **What is cleaned is clean**, by induction on the rounds. -/
theorem clean_settle (s : List Char) : Clean (settle s) := by
  induction s using settle_induction with
  | clean s hs =>
    rw [settle_of_clean hs]
    exact hs
  | step s ih =>
    rw [settle_round]
    exact ih

/-- **Cleaning only leaves out characters**, by induction on the rounds. -/
theorem settle_sublist (s : List Char) : (settle s).Sublist s := by
  induction s using settle_induction with
  | clean s hs => simp [settle_of_clean hs]
  | step s ih =>
    have hround : (settle (round s)).Sublist s := ih.trans (round_sublist s)
    rw [settle_round]
    exact hround

theorem settle_eq_self_iff : settle s = s ↔ Clean s := by
  constructor
  · intro h
    have hclean : Clean (settle s) := clean_settle s
    rw [h] at hclean
    exact hclean
  · exact settle_of_clean

end Settle

/-- **Cleaning leaves out characters until the text is clean.** What it makes of a text is a
    subsequence of it and a clean text; the clean texts are those that it leaves as they are, and so
    cleaning twice is cleaning once. -/
theorem clean_normalize (text : String) :
    (normalize text).toList.Sublist text.toList ∧ Clean (normalize text).toList ∧
    (normalize text = text ↔ Clean text.toList) ∧
    normalize (normalize text) = normalize text := by
  have hself : ∀ s : String, normalize s = s ↔ Clean s.toList := by
    intro s
    rw [← settle_eq_self_iff, ← toList_normalize, String.toList_inj]
  have hsub : (normalize text).toList.Sublist text.toList := by
    rw [toList_normalize]
    exact settle_sublist text.toList
  have hclean : Clean (normalize text).toList := by
    rw [toList_normalize]
    exact clean_settle text.toList
  exact ⟨hsub, hclean, hself text, (hself (normalize text)).mpr hclean⟩

example : normalize "\x08ab\x08\r\ncd\ref" = "\x08a\r\nef" := by decide +kernel

end DeviceCli.Screen
