import DeviceCli.Proofs.Mode.Sound
import DeviceCli.Proofs.Screen.Echo
import DeviceCli.Proofs.Session.Pages

/-!
# Commands that are echoed

Where the output of a command is one page, the command comes to what is made of that page. If a
device shows the command on the first line of the page, none of it is left.

* `runOn_command`: a command in the present mode that is answered at once;
* `command_of_echo`: **the output of a command that is echoed.**
-/

namespace DeviceCli

namespace Console

variable {σ : Type} {c : Console σ} {w : World σ} {mode : Mode} {x : Exchange}

/-- What a command in the present mode sends first. -/
def commandRequest (c : Console σ) (text : String) (mode : Mode) (s : SessionState) : Request where
  text := text ++ c.engine.lineEnding
  prompts := offeredPrompts mode (commandState mode {} s)
  timeout := c.engine.commandTimeout

/-- A session after the only request of a command in the present mode. -/
def afterCommand (c : Console σ) (text : String) (mode : Mode) (w : World σ) : World σ :=
  c.afterSend (c.commandRequest text mode w.state)
    { w with state := commandState mode {} w.state }

/-- **A command that is answered at once** comes to what is made of the answer. -/
theorem runOn_command {text : String} (hmode : c.registry.get? w.state.mode = some mode)
    (hanswer : c.answerTo (c.commandRequest text mode w.state) w = .ok x)
    (hindex : x.matchIndex = 0) :
    (c.command text).runOn w =
      some (checked mode text
        (c.link.dropEcho (c.afterCommand text mode w).device (c.cleaned x.output) text),
        c.afterCommand text mode w) := by
  let s := commandState mode {} w.state
  let reading := commandReading text mode {} s
  have heffective : (c.effectiveMode {}).runOn w = some (.ok mode, w) := by
    rw [effectiveMode, Act.runOn_bind_ok (Act.runOn_state w), Registry.require_of_get? hmode]
    rfl
  have hlast : ∀ y, (.ok x : Except Failure Exchange) = .ok y → y.matchIndex = 1 →
      reading.response = none := by
    rintro y ⟨⟩ hone
    exact absurd (hindex.symm.trans hone) (by decide)
  have hpage : (c.readPage reading (c.outgoing text {}) "" 0).runOn { w with state := s } =
      some ((reading.result "" (.ok x)).map .done, c.afterCommand text mode w) :=
    runOn_readPage_of_last hlast hanswer
  have hinside : x.matchIndex < reading.prompts.length := by
    rw [hindex]
    exact Nat.succ_pos _
  have hresult : reading.result "" (.ok x) = .ok x.output := by
    have hrange : inRange reading.prompts.length x = .ok x := if_pos hinside
    rw [Reading.result, show (.ok x >>= inRange reading.prompts.length) = .ok x from hrange]
    exact congrArg Except.ok String.empty_append
  have hread : c.readPagesOn reading (c.outgoing text {}) "" 0 { w with state := s } =
      some (.ok x.output, c.afterCommand text mode w) := by
    rw [readPagesOn, hpage, hresult]
    rfl
  rw [command, runCommand, Act.runOn_bind_ok heffective]
  exact runOn_execute_of_readPagesOn hread

/-- **The output of a command that is echoed.** If the device shows the command, spaces and a line
    break before the text that it answers with, the command comes to that text as a reader would
    have seen it, without the line breaks in front. Nothing of the echo remains, and whatever lines
    are written over, nothing else of the text is lost. -/
theorem command_of_echo {text body : String} {spaces : Nat}
    (htext : ∀ ch ∈ text.toList, ch ≠ '\r' ∧ ch ≠ '\n' ∧ ch ≠ Screen.backspace)
    (hbody : ∀ ch ∈ body.toList, ch ≠ Screen.backspace)
    (hcontrols : c.engine.stripControls = false)
    (hecho : c.link.dropEcho = fun _ => Screen.dropEcho)
    (hmode : c.registry.get? w.state.mode = some mode)
    (hanswer : c.answerTo (c.commandRequest text mode w.state) w = .ok x)
    (hindex : x.matchIndex = 0)
    (houtput : x.output =
      text ++ String.ofList (List.replicate spaces ' ') ++ "\r\n" ++ body) :
    let seen := String.ofList ((Screen.normalize body).toList.dropWhile Screen.isBreak)
    mode.error.bind (·.detail? seen) = none →
      (c.command text).runOn w = some (.ok seen, c.afterCommand text mode w) := by
  intro seen herror
  have hbody' : Screen.backspace ∉ body.toList := fun h => hbody _ h rfl
  have hleft : c.link.dropEcho (c.afterCommand text mode w).device (c.cleaned x.output) text =
      seen := by
    rw [hecho, cleaned, hcontrols, houtput]
    exact Screen.dropEcho_normalize spaces htext hbody'
  rw [runOn_command hmode hanswer hindex, hleft, checked_eq, herror]

/-- A console on a device with one mode, which shows the command that it was given. -/
def echoConsole : Console (List (Except Failure Exchange)) where
  link := Link.canned
  registry := { modes := Keyed.ofList [("enable", { prompt := ⟨"#", default⟩ })], valid := by rfl }
  engine := {}

/-- The page with which the device answers: the command, and a line that was written over twice. -/
def echoedPage : Exchange :=
  ⟨"show  \r\n\r\nloading\r50%\rdone\r\n", "show  \r\n\r\nloading\r50%\rdone\r\n#", 0, [some "#"]⟩

/-- A session on that device. -/
def echoWorld : World (List (Except Failure Exchange)) where
  device := [.ok echoedPage]
  state := .start "enable"

/-- Of the echo nothing remains, of the line that was written over what was written last. -/
theorem command_of_echo_overwritten :
    (echoConsole.command "show").runOn echoWorld =
      some (.ok "done\r\n", echoConsole.afterCommand "show" { prompt := ⟨"#", default⟩ } echoWorld)
    := by
  have hseen : String.ofList ((Screen.normalize "\r\nloading\r50%\rdone\r\n").toList.dropWhile
      Screen.isBreak) = "done\r\n" := by decide +kernel
  have hrun := @command_of_echo _ echoConsole echoWorld { prompt := ⟨"#", default⟩ } echoedPage
    "show" "\r\nloading\r50%\rdone\r\n" 2 (by simp [Screen.backspace]) (by simp [Screen.backspace])
    rfl rfl rfl rfl rfl (by decide) rfl
  rwa [hseen] at hrun

end Console

end DeviceCli
