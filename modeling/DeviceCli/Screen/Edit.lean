/-!
# Cleaning a text by edits

The output of a device still holds the editing it did on its own screen. Two edits undo it:

* `eraseFirst` removes the first character that is directly followed by a backspace, with it;
* `overwriteFirst` removes the first carriage return that has more of its line behind it, with
  everything before it on that line.

`settle` does one of each per round, in that order, until a round changes nothing. The two do not
commute where backspaces meet carriage returns, so the order is a part of the result.
-/

namespace DeviceCli.Screen

/-- The backspace character. -/
def backspace : Char := '\x08'

/-- The characters that end a line. -/
def endsLine (c : Char) : Bool :=
  c == '\n' || c == '\r' || c == '\u2028' || c == '\u2029'

/-- Whether a character is one that the backspace behind it erases. -/
def erases (c d : Char) : Bool := c != backspace && d == backspace

/-- Whether a character is a carriage return with more of its line behind it. -/
def overwrites (c d : Char) : Bool := c == '\r' && !endsLine d

/-- No two neighbours in a text pass a test. -/
def NoPair (test : Char → Char → Bool) : List Char → Prop
  | c :: d :: rest => test c d = false ∧ NoPair test (d :: rest)
  | _ => True

/-- A line begins behind a text: the text is empty or ends in a line end. -/
def LineBehind (front : List Char) : Prop := ∀ e ∈ front.getLast?, endsLine e = true

/-- Removes the first pair of a character other than backspace and a backspace. -/
def eraseFirst : List Char → Option (List Char)
  | [] => none
  | [_] => none
  | c :: d :: rest =>
    if c ≠ backspace ∧ d = backspace then some rest
    else (eraseFirst (d :: rest)).map (c :: ·)

/-- Removes the first overwritten line prefix; `line` holds what is before it on its line and
    may be a part of the prefix, the latest character first. -/
def overwriteFrom (line : List Char) : List Char → Option (List Char)
  | [] => none
  | [_] => none
  | c :: d :: rest =>
    if c = '\r' ∧ endsLine d = false then some (d :: rest)
    else if endsLine c then (overwriteFrom [] (d :: rest)).map (line.reverse ++ c :: ·)
    else overwriteFrom (c :: line) (d :: rest)

/-- Removes the first line prefix that ends in a carriage return with more of the line behind
    it. -/
def overwriteFirst (text : List Char) : Option (List Char) := overwriteFrom [] text

theorem noPair_append_cons {test : Char → Char → Bool} (front : List Char) (c : Char)
    (back : List Char) :
    NoPair test (front ++ c :: back) ↔ NoPair test (front ++ [c]) ∧ NoPair test (c :: back) := by
  induction front with
  | nil => simp [NoPair]
  | cons b front ih =>
    cases front with
    | nil => simp [NoPair]
    | cons b' front =>
      simp only [List.cons_append, NoPair] at ih ⊢
      rw [ih, and_assoc]

theorem noPair_of_append {test : Char → Char → Bool} {front : List Char} (back : List Char)
    (h : NoPair test (front ++ back)) : NoPair test front := by
  rcases List.eq_nil_or_concat front with rfl | ⟨u, c, rfl⟩
  · trivial
  · rw [List.concat_eq_append, List.append_assoc, List.singleton_append, noPair_append_cons] at h
    rw [List.concat_eq_append]
    exact h.1

/-- A text ends in a line that begins behind a line end or at the start. -/
theorem exists_line (s : List Char) :
    ∃ front line, s = front ++ line ∧ LineBehind front ∧ ∀ c ∈ line, endsLine c = false := by
  induction s with
  | nil => exact ⟨[], [], rfl, by simp [LineBehind], by simp⟩
  | cons c s ih =>
    obtain ⟨front, line, rfl, hb, hn⟩ := ih
    cases front with
    | nil =>
      by_cases hc : endsLine c = true
      · exact ⟨[c], line, rfl, by simpa [LineBehind] using hc, hn⟩
      · refine ⟨[], c :: line, rfl, by simp [LineBehind], ?_⟩
        simpa using And.intro hc hn
    | cons d front =>
      refine ⟨c :: d :: front, line, rfl, ?_, hn⟩
      simpa [LineBehind] using hb

theorem length_of_eraseFirst {s t : List Char} (h : eraseFirst s = some t) :
    t.length + 2 = s.length := by
  fun_induction eraseFirst s generalizing t with
  | case1 => simp at h
  | case2 => simp at h
  | case3 c d rest hc => cases h; simp
  | case4 c d rest hc ih =>
    obtain ⟨u, hu, rfl⟩ := Option.map_eq_some_iff.1 h
    have := ih hu
    simp only [List.length_cons] at this ⊢
    omega

theorem length_of_overwriteFrom {line s t : List Char} (h : overwriteFrom line s = some t) :
    t.length < line.length + s.length := by
  fun_induction overwriteFrom line s generalizing t with
  | case1 => simp at h
  | case2 => simp at h
  | case3 line c d rest hc => cases h; simp; omega
  | case4 line c d rest hc hl ih =>
    obtain ⟨u, hu, rfl⟩ := Option.map_eq_some_iff.1 h
    have := ih hu
    simp only [List.length_append, List.length_reverse, List.length_cons, List.length_nil] at this ⊢
    omega
  | case5 line c d rest hc hl ih =>
    have := ih h
    simp only [List.length_cons] at this ⊢
    omega

theorem length_of_overwriteFirst {s t : List Char} (h : overwriteFirst s = some t) :
    t.length < s.length := by
  simpa using length_of_overwriteFrom h

/-- Rounds of the two edits until nothing changes. -/
def settle (text : List Char) : List Char :=
  match _h₁ : eraseFirst text with
  | some erased => match _h₂ : overwriteFirst erased with
    | some both => settle both
    | none => settle erased
  | none => match _h₂ : overwriteFirst text with
    | some overwritten => settle overwritten
    | none => text
  termination_by text.length
  decreasing_by
    · have := length_of_eraseFirst _h₁; have := length_of_overwriteFirst _h₂; omega
    · have := length_of_eraseFirst _h₁; omega
    · exact length_of_overwriteFirst _h₂

end DeviceCli.Screen
