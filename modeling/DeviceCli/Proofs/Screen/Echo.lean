import DeviceCli.Proofs.Screen.Lines
import DeviceCli.Screen.Echo

/-!
# The echo of a command comes off

A device shows the command on a line of its own before the output. The whole is cleaned before the
echo is taken off, and still nothing but the echo goes.

* `removeEchoChars_of_echo`: an echo, spaces, and all line breaks behind them are removed;
* `settle_echo`: the line of an echo is left as it is, and the output behind it is cleaned as if it
  stood alone;
* `dropEcho_normalize`: **what is left of an output with its echo is the output cleaned**, without
  the line breaks in front of it;
* `dropEcho_of_command`: **what comes off an output**, whatever the command and the output are.
-/

namespace DeviceCli.Screen

section Echo

variable {command run body : List Char}

/-! ## 1. Taking off -/

theorem dropStart?_append (start s : List Char) : dropStart? start (start ++ s) = some s := by
  induction start with
  | nil => rfl
  | cons c start ih =>
    rw [List.cons_append, dropStart?, if_pos rfl]
    exact ih

theorem withoutEndBreaks_of_none (h : ∀ c ∈ command, isBreak c = false) :
    withoutEndBreaks command = command := by
  have hkept : command.reverse.dropWhile isBreak = command.reverse := by
    cases hr : command.reverse with
    | nil => rfl
    | cons c rest =>
      have hc : c ∈ command := List.mem_reverse.mp (by simp [hr])
      rw [List.dropWhile_cons_of_neg (by simp [h c hc])]
  rw [withoutEndBreaks, hkept, List.reverse_reverse]

/-- **An echo with a line break behind it comes off**, with the spaces between them and with all
    line breaks that follow. -/
theorem removeEchoChars_of_echo (spaces : Nat) (hrun : run ≠ []) (hbreaks : ∀ c ∈ run, isBreak c) :
    removeEchoChars
      (withoutEndBreaks command ++ (List.replicate spaces ' ' ++ (run ++ body))) command =
        body.dropWhile isBreak := by
  obtain ⟨c, run, rfl⟩ := List.exists_cons_of_ne_nil hrun
  have hc : isBreak c = true := hbreaks c List.mem_cons_self
  have hspace : (c == ' ') = false := by
    refine beq_eq_false_iff_ne.mpr ?_
    rintro rfl
    exact absurd hc (by decide)
  have hbehind : (List.replicate spaces ' ' ++ (c :: run ++ body)).dropWhile (· == ' ') =
      c :: run ++ body := by
    rw [List.dropWhile_append_of_pos fun d hd => by simp [List.eq_of_mem_replicate hd]]
    simp [hspace]
  rw [removeEchoChars, dropStart?_append]
  dsimp only
  rw [hbehind, if_pos (by simpa using hc), List.dropWhile_append_of_pos hbreaks]

/-! ## 2. Cleaning -/

/-- **The line of an echo is left as it is**, since a carriage return before a newline overwrites
    nothing, and what is behind the newline is cleaned by itself. -/
theorem settle_echo {echo : List Char} (hreturn : '\r' ∉ echo) (hback : backspace ∉ echo)
    (hbody : backspace ∉ body) :
    settle (echo ++ '\r' :: '\n' :: body) = echo ++ '\r' :: '\n' :: settle body := by
  have hplain : backspace ∉ echo ++ ['\r'] := by
    simpa [hback] using (by decide : backspace ≠ '\r')
  have hpair : NoPair overwrites (echo ++ ['\r']) :=
    noPair_append_singleton (overwriteFrom_eq_none_iff.mp (overwriteFirst_of_notMem hreturn))
      fun c => by simp [overwrites, endsLine]
  have hecho : settle (echo ++ ['\r']) = echo ++ ['\r'] :=
    settle_of_stable (eraseFirst_of_notMem hplain) (overwriteFrom_eq_none_iff.mpr hpair)
  have hlines := settle_append_cons (echo ++ ['\r']) (e := '\n') (by decide) (by decide) hbody
  rw [hecho] at hlines
  simpa using hlines

/-! ## 3. What is behind the echo -/

/-- What comes off the front is exactly the front. -/
theorem dropStart?_eq_some_iff {start s rest : List Char} :
    dropStart? start s = some rest ↔ s = start ++ rest := by
  constructor
  · intro h
    induction start generalizing s with
    | nil => exact Option.some.inj h
    | cons c start ih =>
      cases s with
      | nil => cases h
      | cons d s =>
        rw [dropStart?] at h
        by_cases hc : c = d
        · rw [if_pos hc] at h
          rw [hc, List.cons_append, ih h]
        · rw [if_neg hc] at h
          cases h
  · rintro rfl
    exact dropStart?_append start rest

theorem dropStart?_eq_none_iff {start s : List Char} :
    dropStart? start s = none ↔ ¬ start <+: s := by
  rw [Option.eq_none_iff_forall_ne_some]
  constructor
  · rintro h ⟨rest, rfl⟩
    exact h rest (dropStart?_append start rest)
  · rintro h rest hrest
    exact h ⟨rest, (dropStart?_eq_some_iff.mp hrest).symm⟩

/-- What is behind an echo ends its line: spaces, or none, and a line break right behind them. -/
def EndsEcho (rest : List Char) : Prop :=
  ∃ spaces c behind, isBreak c = true ∧ rest = List.replicate spaces ' ' ++ c :: behind

/-- The spaces in front of a text are looked past, and nothing else is. -/
theorem head?_dropWhile_spaces_iff {rest : List Char} :
    ((rest.dropWhile (· == ' ')).head?.map isBreak).getD false = true ↔ EndsEcho rest := by
  constructor
  · intro h
    cases hbehind : rest.dropWhile (· == ' ') with
    | nil =>
      rw [hbehind] at h
      cases h
    | cons c behind =>
      rw [hbehind] at h
      have hspaces : rest.takeWhile (· == ' ') =
          List.replicate (rest.takeWhile (· == ' ')).length ' ' := by
        refine List.eq_replicate_iff.mpr ⟨rfl, fun d hd => ?_⟩
        simpa using List.all_eq_true.mp List.all_takeWhile d hd
      refine ⟨(rest.takeWhile (· == ' ')).length, c, behind, h, ?_⟩
      rw [← hspaces, ← hbehind, List.takeWhile_append_dropWhile]
  · rintro ⟨spaces, c, behind, hc, rfl⟩
    have hspace : (c == ' ') = false := by
      refine beq_eq_false_iff_ne.mpr ?_
      rintro rfl
      exact absurd hc (by decide)
    rw [List.dropWhile_append_of_pos fun d hd => by simp [List.eq_of_mem_replicate hd],
      List.dropWhile_cons_of_neg (by simp [hspace])]
    exact hc

/-- An output that does not begin with the command stays as it is. -/
theorem removeEchoChars_of_not_prefix {output : List Char}
    (h : ¬ withoutEndBreaks command <+: output) : removeEchoChars output command = output := by
  rw [removeEchoChars, dropStart?_eq_none_iff.mpr h]

/-- Without a line break behind it, nothing but the command itself comes off. -/
theorem removeEchoChars_of_not_endsEcho {rest : List Char} (h : ¬ EndsEcho rest) :
    removeEchoChars (withoutEndBreaks command ++ rest) command = rest := by
  rw [removeEchoChars, dropStart?_append]
  dsimp only
  rw [if_neg (mt head?_dropWhile_spaces_iff.mp h)]

/-- **Nothing is taken out of an output but from its front.** -/
theorem removeEchoChars_suffix (output command : List Char) :
    removeEchoChars output command <:+ output := by
  rw [removeEchoChars]
  cases hrest : dropStart? (withoutEndBreaks command) output with
  | none => exact List.suffix_refl output
  | some rest =>
    have hsuffix : rest <:+ output :=
      ⟨withoutEndBreaks command, (dropStart?_eq_some_iff.mp hrest).symm⟩
    dsimp only
    split
    · exact ((List.dropWhile_suffix _).trans (List.dropWhile_suffix _)).trans hsuffix
    · exact hsuffix

/-- A command is what is left of it without the breaks at its end, and those breaks. -/
theorem exists_endBreaks (command : List Char) :
    ∃ ends, command = withoutEndBreaks command ++ ends ∧ (∀ c ∈ ends, isBreak c = true) ∧
      ∀ c ∈ (withoutEndBreaks command).getLast?, isBreak c = false := by
  refine ⟨(command.reverse.takeWhile isBreak).reverse, ?_, fun c hc => ?_, fun c hc => ?_⟩
  · rw [withoutEndBreaks, ← List.reverse_append, List.takeWhile_append_dropWhile,
      List.reverse_reverse]
  · exact List.all_eq_true.mp List.all_takeWhile c (List.mem_reverse.mp hc)
  · rw [withoutEndBreaks, List.getLast?_reverse] at hc
    have hhead := List.head?_dropWhile_not isBreak command.reverse
    rw [hc] at hhead
    exact hhead

end Echo

/-- **What is left of an output with its echo in front.** For any text without backspaces behind the
    echo, whatever of it is overwritten, this is the text cleaned by itself, without the line breaks
    in front of it. -/
theorem dropEcho_normalize {command body : String} (spaces : Nat)
    (hcommand : ∀ c ∈ command.toList, c ≠ '\r' ∧ c ≠ '\n' ∧ c ≠ backspace)
    (hbody : backspace ∉ body.toList) :
    dropEcho (normalize
        (command ++ String.ofList (List.replicate spaces ' ') ++ "\r\n" ++ body)) command =
      String.ofList ((normalize body).toList.dropWhile isBreak) := by
  have hbreak : ∀ c ∈ command.toList, isBreak c = false := fun c hc => by
    simp [isBreak, (hcommand c hc).1, (hcommand c hc).2.1]
  have hreturn : '\r' ∉ command.toList ++ List.replicate spaces ' ' := by
    rw [List.mem_append, not_or]
    exact ⟨fun h => (hcommand _ h).1 rfl, fun h => absurd (List.eq_of_mem_replicate h) (by decide)⟩
  have hback : backspace ∉ command.toList ++ List.replicate spaces ' ' := by
    rw [List.mem_append, not_or]
    exact ⟨fun h => (hcommand _ h).2.2 rfl,
      fun h => absurd (List.eq_of_mem_replicate h) (by decide)⟩
  have htext : (command ++ String.ofList (List.replicate spaces ' ') ++ "\r\n" ++ body).toList =
      command.toList ++ List.replicate spaces ' ' ++ '\r' :: '\n' :: body.toList := by
    simp
  have hrun : ∀ c ∈ ['\r', '\n'], isBreak c := by simp [isBreak]
  have hoff := @removeEchoChars_of_echo command.toList _ (settle body.toList) spaces
    (List.cons_ne_nil '\r' ['\n']) hrun
  rw [withoutEndBreaks_of_none hbreak] at hoff
  rw [dropEcho, normalize, normalize, htext, normalizeChars_eq_settle, normalizeChars_eq_settle,
    String.toList_ofList, String.toList_ofList, settle_echo hreturn hback hbody, List.append_assoc]
  exact congrArg String.ofList hoff

/-! ## 4. What comes off -/

/-- The text of a command as a device repeats it: without the line breaks at its end. -/
def repeated (command : String) : String := String.ofList (withoutEndBreaks command.toList)

/-- **What comes off an output.** A command is what is repeated of it and line breaks.

    * Where the output is this, spaces, some line breaks, and a text that begins with none, then just
      that text is left. The command may be empty or end in spaces, and the text may begin with
      spaces or with the command once more.
    * What is left is always the end of the output: all of it, where it does not begin with the
      command, and all behind the command, where that is not spaces and a line break. -/
theorem dropEcho_of_command (command : String) :
    (∃ ends, command = repeated command ++ ends ∧ (∀ c ∈ ends.toList, c = '\r' ∨ c = '\n') ∧
      ∀ c ∈ (repeated command).toList.getLast?, c ≠ '\r' ∧ c ≠ '\n') ∧
    (∀ (spaces : Nat) (run body : String), run ≠ "" →
      (∀ c ∈ run.toList, c = '\r' ∨ c = '\n') →
      (∀ c ∈ body.toList.head?, c ≠ '\r' ∧ c ≠ '\n') →
      dropEcho (repeated command ++ String.ofList (List.replicate spaces ' ') ++ run ++ body)
        command = body) ∧
    ∀ output : String, (dropEcho output command).toList <:+ output.toList ∧
      (¬ (repeated command).toList <+: output.toList → dropEcho output command = output) ∧
      ∀ rest, output = repeated command ++ rest → ¬ EndsEcho rest.toList →
        dropEcho output command = rest := by
  have hbreak : ∀ c, isBreak c = true ↔ c = '\r' ∨ c = '\n' := fun c => by simp [isBreak]
  have hplain : ∀ c, isBreak c = false ↔ c ≠ '\r' ∧ c ≠ '\n' := fun c => by simp [isBreak]
  have hrepeated : (repeated command).toList = withoutEndBreaks command.toList :=
    String.toList_ofList
  refine ⟨?_, fun spaces run body hrun hbreaks hbody => ?_, fun output => ⟨?_, fun h => ?_, ?_⟩⟩
  · obtain ⟨ends, hcommand, hends, hlast⟩ := exists_endBreaks command.toList
    refine ⟨String.ofList ends, String.toList_inj.mp ?_, fun c hc => ?_, fun c hc => ?_⟩
    · rw [String.toList_append, hrepeated, String.toList_ofList]
      exact hcommand
    · rw [String.toList_ofList] at hc
      exact (hbreak c).mp (hends c hc)
    · rw [hrepeated] at hc
      exact (hplain c).mp (hlast c hc)
  · have htext : (repeated command ++ String.ofList (List.replicate spaces ' ') ++ run ++
        body).toList = withoutEndBreaks command.toList ++
          (List.replicate spaces ' ' ++ (run.toList ++ body.toList)) := by
      simp [hrepeated]
    have hkept : body.toList.dropWhile isBreak = body.toList := by
      cases hchars : body.toList with
      | nil => rfl
      | cons c behind =>
        rw [hchars] at hbody
        rw [List.dropWhile_cons_of_neg (by simp [(hplain c).mpr (hbody c rfl)])]
    have hrun' : run.toList ≠ [] := fun h => hrun (String.toList_eq_nil_iff.mp h)
    rw [dropEcho, htext, removeEchoChars_of_echo spaces hrun' fun c hc => (hbreak c).mpr
      (hbreaks c hc), hkept, String.ofList_toList]
  · rw [dropEcho, String.toList_ofList]
    exact removeEchoChars_suffix _ _
  · rw [hrepeated] at h
    rw [dropEcho, removeEchoChars_of_not_prefix h, String.ofList_toList]
  · rintro rest rfl hrest
    rw [dropEcho, String.toList_append, hrepeated, removeEchoChars_of_not_endsEcho hrest,
      String.ofList_toList]

/-- A command that ends in a space and a carriage return. The answers begin with a space and the
    command, with a space alone, and with something else. -/
theorem dropEcho_of_command_again :
    dropEcho "show   \r\n show clock\r\n" "show \r" = " show clock\r\n" ∧
      dropEcho "show  clock" "show \r" = " clock" ∧ dropEcho "% show" "show \r" = "% show" := by
  obtain ⟨-, hecho, hother⟩ := dropEcho_of_command "show \r"
  have hrun : ∀ c ∈ "\r\n".toList, c = '\r' ∨ c = '\n' := by simp
  have hbody : ∀ c ∈ " show clock\r\n".toList.head?, c ≠ '\r' ∧ c ≠ '\n' := by simp
  have hends : ¬ EndsEcho " clock".toList := mt head?_dropWhile_spaces_iff.mpr (by decide)
  exact ⟨hecho 2 "\r\n" " show clock\r\n" (by decide) hrun hbody,
    (hother _).2.2 " clock" rfl hends, (hother _).2.1 (by decide)⟩

end DeviceCli.Screen
