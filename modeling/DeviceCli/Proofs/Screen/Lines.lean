import DeviceCli.Proofs.Screen.Settle

/-!
# Lines are cleaned by themselves

A device erases what it has just written and writes over the line that it is on. Neither reaches
back behind a line end that is no carriage return: a text that holds no backspace is cleaned behind
such a line end as if it stood alone, and so is what is in front of it.

* `eraseFirst_append_cons`, `overwriteFirst_append_cons`: where the next edit is;
* `settle_round`: cleaning as rounds of one function;
* `settle_append_cons`: both sides of a line end are cleaned by themselves;
* `normalize_append`: **so is a text put together of two** with a line end between them.
-/

namespace DeviceCli.Screen

/-! ## 1. The next edit -/

section Edit

variable {a b s t : List Char} {e : Char}

/-- What ends in something that is never the second of a pair has no new pair there. -/
theorem noPair_append_singleton {test : Char → Char → Bool} {front : List Char} {d : Char}
    (h : NoPair test front) (hd : ∀ c, test c d = false) : NoPair test (front ++ [d]) := by
  rcases List.eq_nil_or_concat front with rfl | ⟨init, c, rfl⟩
  · trivial
  · rw [List.concat_eq_append] at h ⊢
    exact noPair_concat h (hd c)

theorem eraseFirst_append_of_some (more : List Char) (h : eraseFirst a = some t) :
    eraseFirst (a ++ more) = some (t ++ more) := by
  fun_induction eraseFirst a generalizing t with
  | case1 => cases h
  | case2 => cases h
  | case3 c d rest hc =>
    cases h
    rw [List.cons_append, List.cons_append, eraseFirst, if_pos hc]
  | case4 c d rest hc ih =>
    obtain ⟨u, hu, rfl⟩ := Option.map_eq_some_iff.mp h
    rw [List.cons_append, List.cons_append, eraseFirst, if_neg hc, ← List.cons_append, ih hu]
    rfl

/-- **The next erasure** is in front of a character that is no backspace, or there is none. -/
theorem eraseFirst_append_cons (a : List Char) (he : e ≠ backspace) (hb : backspace ∉ b) :
    eraseFirst (a ++ e :: b) = (eraseFirst a).map (· ++ e :: b) := by
  cases h : eraseFirst a with
  | some t => exact eraseFirst_append_of_some _ h
  | none =>
    have hfront : NoPair erases (a ++ [e]) :=
      noPair_append_singleton (eraseFirst_eq_none_iff.mp h) fun c => by simp [erases, he]
    have hback : NoPair erases (e :: b) :=
      eraseFirst_eq_none_iff.mp (eraseFirst_of_notMem (by simp [he.symm, hb]))
    exact eraseFirst_eq_none_iff.mpr ((noPair_append_cons ..).mpr ⟨hfront, hback⟩)

theorem overwriteFrom_append_of_some (more : List Char) {line : List Char}
    (h : overwriteFrom line a = some t) : overwriteFrom line (a ++ more) = some (t ++ more) := by
  fun_induction overwriteFrom line a generalizing t with
  | case1 => cases h
  | case2 => cases h
  | case3 line c d rest hc =>
    cases h
    rw [List.cons_append, List.cons_append, overwriteFrom, if_pos hc]
  | case4 line c d rest hc hl ih =>
    obtain ⟨u, hu, rfl⟩ := Option.map_eq_some_iff.mp h
    rw [List.cons_append, List.cons_append, overwriteFrom, if_neg hc, if_pos hl,
      ← List.cons_append, ih hu]
    simp
  | case5 line c d rest hc hl ih =>
    rw [List.cons_append, List.cons_append, overwriteFrom, if_neg hc, if_neg hl,
      ← List.cons_append, ih h]

/-- **The next overwrite** is in front of a line end that is no carriage return. If there is none,
    it is the one of the text behind: no prefix of a line reaches over the line end. -/
theorem overwriteFirst_append_cons (a b : List Char) (he : endsLine e = true) (hr : e ≠ '\r') :
    overwriteFirst (a ++ e :: b) = match overwriteFirst a with
      | some t => some (t ++ e :: b)
      | none => (overwriteFirst b).map (a ++ e :: ·) := by
  cases h : overwriteFirst a with
  | some t => exact overwriteFrom_append_of_some _ h
  | none =>
    have hfront : NoPair overwrites (a ++ [e]) :=
      noPair_append_singleton (overwriteFrom_eq_none_iff.mp h) fun c => by simp [overwrites, he]
    cases b with
    | nil => exact overwriteFrom_eq_none_iff.mpr hfront
    | cons c rest =>
      have hnext : NoPair overwrites (a ++ [e, c]) := by
        have := noPair_concat hfront (d := c) (by simp [overwrites, hr])
        simpa using this
      exact (overwriteFrom_append he hnext []).trans (by simp [overwriteFirst])

/-- An overwrite brings no character into a text. -/
theorem mem_of_overwriteFirst {c : Char} (h : overwriteFirst s = some t) (hc : c ∈ t) : c ∈ s := by
  obtain ⟨front, line, d, back, rfl, -, -, -, rfl, -⟩ := overwriteFirst_eq_some_iff.mp h
  simp only [List.mem_append, List.mem_cons] at hc ⊢
  rcases hc with hc | hc | hc
  · exact .inl hc
  · exact .inr (.inr (.inr (.inl hc)))
  · exact .inr (.inr (.inr (.inr hc)))

end Edit

/-! ## 2. Rounds -/

/-- One erasure and then one overwrite, as far as there are any. -/
def round (s : List Char) : List Char :=
  let erased := (eraseFirst s).getD s
  (overwriteFirst erased).getD erased

/-- Cleaning goes on behind each round. -/
theorem settle_round (s : List Char) : settle s = settle (round s) := by
  rw [settle_eq]
  dsimp only
  split
  · rfl
  · next h =>
    -- a round that finds nothing changes nothing
    obtain ⟨he, ho⟩ : eraseFirst s = none ∧ overwriteFirst ((eraseFirst s).getD s) = none := by
      simpa using h
    rw [he, Option.getD_none] at ho
    rw [round, he, Option.getD_none, ho, Option.getD_none, settle_of_stable he ho]

theorem length_round_lt {s : List Char} (h : ¬ (eraseFirst s = none ∧ overwriteFirst s = none)) :
    (round s).length < s.length := by
  rw [round]
  cases he : eraseFirst s with
  | some t =>
    have := length_of_eraseFirst he
    rw [Option.getD_some]
    cases ho : overwriteFirst t with
    | some u =>
      have := length_of_overwriteFirst ho
      rw [Option.getD_some]
      omega
    | none =>
      rw [Option.getD_none]
      omega
  | none =>
    rw [Option.getD_none]
    cases ho : overwriteFirst s with
    | some u => exact length_of_overwriteFirst ho
    | none => exact absurd ⟨he, ho⟩ h

/-- A round of a text with a line end in it is one of the text in front of it, and behind it, too,
    once nothing in front is written over. -/
theorem round_append_cons {a b : List Char} {e : Char} (he : endsLine e = true) (hr : e ≠ '\r')
    (hb : backspace ∉ b) :
    round (a ++ e :: b) =
      round a ++ e ::
        (if (overwriteFirst ((eraseFirst a).getD a)).isSome then b
        else (overwriteFirst b).getD b) := by
  have hback : e ≠ backspace := by
    rintro rfl
    exact absurd he (by decide)
  have herased : (eraseFirst (a ++ e :: b)).getD (a ++ e :: b) =
      (eraseFirst a).getD a ++ e :: b := by
    rw [eraseFirst_append_cons a hback hb]
    cases eraseFirst a <;> rfl
  unfold round
  dsimp only
  rw [herased, overwriteFirst_append_cons _ b he hr]
  cases overwriteFirst ((eraseFirst a).getD a) with
  | some t => rfl
  | none => cases overwriteFirst b <;> rfl

/-! ## 3. Lines -/

/-- **Both sides of a line end are cleaned by themselves**, if it is no carriage return and no
    backspace is behind it. By induction on the length: each round in front is a round of the whole,
    while what is behind is not changed or overwritten once. -/
theorem settle_append_cons (a : List Char) {b : List Char} {e : Char} (he : endsLine e = true)
    (hr : e ≠ '\r') (hb : backspace ∉ b) : settle (a ++ e :: b) = settle a ++ e :: settle b := by
  induction hn : (a ++ e :: b).length using Nat.strongRecOn generalizing a b with
  | ind n ih =>
    let b' := if (overwriteFirst ((eraseFirst a).getD a)).isSome then b
      else (overwriteFirst b).getD b
    have hround : round (a ++ e :: b) = round a ++ e :: b' := round_append_cons he hr hb
    -- behind the line end there are only overwrites, so it is settled as well after one of them
    obtain ⟨hb', hsettle⟩ : backspace ∉ b' ∧ settle b' = settle b := by
      cases ho : overwriteFirst b with
      | none => simp [b', ho, hb]
      | some t =>
        have hrest : round b = t := by
          rw [round, eraseFirst_of_notMem hb, Option.getD_none, ho, Option.getD_some]
        have ht : backspace ∉ t ∧ settle t = settle b :=
          ⟨fun h => hb (mem_of_overwriteFirst ho h), by rw [settle_round b, hrest]⟩
        dsimp only [b']
        rw [ho, Option.getD_some]
        split
        · exact ⟨hb, rfl⟩
        · exact ht
    by_cases hstable :
        eraseFirst (a ++ e :: b) = none ∧ overwriteFirst (a ++ e :: b) = none
    · obtain ⟨he₀, ho₀⟩ := hstable
      rw [settle_of_stable he₀ ho₀]
      have hae : eraseFirst a = none := by
        rw [eraseFirst_eq_none_iff] at he₀ ⊢
        exact noPair_of_append _ he₀
      have hao : overwriteFirst a = none := by
        rw [overwriteFirst, overwriteFrom_eq_none_iff] at ho₀ ⊢
        exact noPair_of_append _ ho₀
      have hbo : overwriteFirst b = none := by
        rw [overwriteFirst_append_cons a b he hr, hao] at ho₀
        simpa using ho₀
      rw [settle_of_stable hae hao, settle_of_stable (eraseFirst_of_notMem hb) hbo]
    · have hlt := length_round_lt hstable
      rw [hround] at hlt
      rw [settle_round, hround, ih _ (hn ▸ hlt) _ hb' rfl, ← settle_round, hsettle]

/-- **Two texts with a newline, or a line or paragraph separator, between them are cleaned by
    themselves**, if there is no backspace in the second one. The first one may be erased and
    written over in any way. -/
theorem normalize_append (a b : String) (separator : Char)
    (hseparator : separator ∈ ['\n', '\u2028', '\u2029']) (hb : '\x08' ∉ b.toList) :
    normalize (a ++ String.singleton separator ++ b) =
      normalize a ++ String.singleton separator ++ normalize b := by
  have hends : endsLine separator = true ∧ separator ≠ '\r' := by
    simp only [List.mem_cons, List.not_mem_nil, or_false] at hseparator
    rcases hseparator with rfl | rfl | rfl <;> decide
  have hsettle := settle_append_cons a.toList hends.1 hends.2 hb
  rw [← String.toList_inj]
  simp only [toList_normalize, String.toList_append, String.toList_singleton, List.append_assoc,
    List.singleton_append]
  exact hsettle

/-- What is erased and written over in front of a line separator does not reach behind it. -/
theorem normalize_append_progress :
    '\u2028' ∈ ['\n', '\u2028', '\u2029'] ∧ '\x08' ∉ "10%\r20%".toList ∧
    normalize ("one |\x08/\rtwo\r\x08!" ++ String.singleton '\u2028' ++ "10%\r20%") =
      "two!" ++ String.singleton '\u2028' ++ "20%" := by
  have hseparator : '\u2028' ∈ ['\n', '\u2028', '\u2029'] := by decide
  have hb : '\x08' ∉ "10%\r20%".toList := by decide
  have hfirst : normalize "one |\x08/\rtwo\r\x08!" = "two!" := by decide +kernel
  have hsecond : normalize "10%\r20%" = "20%" := by decide +kernel
  refine ⟨hseparator, hb, ?_⟩
  rw [normalize_append _ _ _ hseparator hb, hfirst, hsecond]

end DeviceCli.Screen
