import DeviceCli.Session.Basic
import DeviceCli.Screen.Editor
import DeviceCli.Screen.ControlSequence

/-!
# Commands

A command is sent and its output read up to the prompt of a mode, page by page where the pager
stops it. The output is then cleaned and looked through for an error.

* `Console.execute` runs a command in a given mode;
* `Console.installPager` installs the pager of a mode and runs the commands that avoid paging;
* `Console.runCommand` runs a command in the present mode, or in another one that is applied
  first.
-/

namespace DeviceCli

/-- The mode to run a command in, where it is not the present one. -/
inductive CommandMode where
  | named (name : String)
  | inline (mode : Mode)
  deriving Inhabited

/-- How to run a command. -/
structure CommandOptions where
  mode : Option CommandMode := none
  /-- the command changes the prompt, so it is no longer pinned -/
  clearPrompt : Bool := false
  /-- send no line ending -/
  noCr : Bool := false
  timeout : Option Nat := none
  deriving Inhabited

namespace Console

variable {σ : Type} (c : Console σ)

/-! ## 1. Pages -/

/-- What stays the same while the pages of a command are read. -/
structure Reading where
  command : String
  prompts : List String
  timeout : Option Nat
  /-- what to answer when a page is full, if a pager is installed -/
  response : Option String

/-- The context of a failure while a command runs. -/
def commandContext (command : String) : String :=
  s!"error while waiting for a response from the device after command '{command}'"

/-- What a round of reading comes to: the whole output, or a page, with what to send next and what
    is collected so far. -/
inductive Round where
  | done (output : String)
  | more (text collected : String)

/-- One round of reading: sends a text and waits for a prompt of the mode, or for that of the pager.
    `collected` are the pages so far and `pages` their number. -/
def readPage (r : Reading) (text collected : String) (pages : Nat) : Act σ Round := do
  let x ← Act.inContext (commandContext r.command) (c.exchange text r.prompts r.timeout)
  match r.response with
  | some response =>
    if x.matchIndex = 1 then
      Act.note "Pager prompt acknowledged" [("command", r.command), ("pages", toString (pages + 1))]
      pure (.more response (collected ++ x.fullOutput))
    else pure (.done (collected ++ x.output))
  | none => pure (.done (collected ++ x.output))

/-- Reads pages in a session, round by round; `n` is how many there were. There may be no end of
    them. -/
def readPagesOn (r : Reading) (text collected : String) (n : Nat) (w : World σ) :
    Option (Except Failure String × World σ) :=
  match (c.readPage r text collected n).runOn w with
  | none => none
  | some (.error f, w') => some (.error f, w')
  | some (.ok (.done output), w') => some (.ok output, w')
  | some (.ok (.more text collected), w') => (readPagesOn r (n := n + 1) (w := w')) text collected
partial_fixpoint

/-- Reads pages until a prompt of the mode comes. -/
def readPages (r : Reading) (text : String) : Act σ String :=
  ExceptT.mk fun w => c.readPagesOn r text "" 0 w

@[simp] theorem runOn_readPages (r : Reading) (text : String) (w : World σ) :
    (c.readPages r text).runOn w = c.readPagesOn r text "" 0 w := rfl

/-! ## 2. Running a command -/

/-- The prompts that a command in a mode waits for: that of the mode, pinned if it is to be, and
    that of the pager. -/
def offeredPrompts (mode : Mode) (s : SessionState) : List String :=
  (match s.strict with
    | some strict => mode.prompt.pinned strict
    | none => mode.prompt.source) ::
  (match s.pager with
    | some pager => [pager.detect.source]
    | none => [])

/-- What is sent for a command. -/
def outgoing (text : String) (options : CommandOptions) : String :=
  if options.noCr then text else text ++ c.engine.lineEnding

/-- An output as a reader would have seen it, up to the echo. -/
def cleaned (output : String) : String :=
  Screen.normalize (if c.engine.stripControls then Screen.stripControls output else output)

/-- The output of a command, unless the mode's error pattern matches it. -/
def checked (mode : Mode) (command output : String) : Except Failure String :=
  match mode.error with
  | none => .ok output
  | some pattern => match pattern.detail? output with
    | some detail => .error (.reported detail command)
    | none => .ok output

/-- Runs a command in a mode. -/
def execute (text : String) (mode : Mode) (options : CommandOptions) : Act σ String := do
  if options.clearPrompt || mode.clearPrompt then
    Act.modifyState fun s => { s with strict := none }
  let w ← get
  let reading : Reading :=
    { command := text
      prompts := offeredPrompts mode w.state
      timeout := options.timeout
      response := w.state.pager.map (·.response) }
  let output ← c.readPages reading (c.outgoing text options)
  let w ← get
  Act.lift (checked mode text (c.link.dropEcho w.device (c.cleaned output) text))

/-! ## 3. Pagers -/

/-- The pager that a mode's definition amounts to: both a pattern and a response. -/
def installable (pager : Pager) : Option InstalledPager :=
  match pager.detect, pager.response with
  | some detect, some response => some ⟨detect, response⟩
  | _, _ => none

/-- Runs the commands that avoid paging. One that fails is noted, and the next one runs. -/
def runAvoid (mode : Mode) (label : String) : List String → Act σ Unit
  | [] => pure ()
  | command :: rest => do
    match ← Act.attempt (c.execute command mode {}) with
    | .ok _ => pure ()
    | .error f =>
      Act.note "Pager avoid command failed"
        [("mode", label), ("command", command), ("error", f.message)]
    runAvoid mode label rest

/-- Installs the pager of a mode in place of the one before, and runs the commands that avoid
    paging. -/
def installPager (mode : Mode) (label : String) : Act σ Unit := do
  Act.modifyState fun s => { s with pager := none }
  match mode.pager with
  | none => pure ()
  | some pager =>
    Act.lift ((pager.validate label).mapError .definition)
    match installable pager with
    | some active => Act.modifyState fun s => { s with pager := some active }
    | none => pure ()
    c.runAvoid mode label pager.avoid

/-! ## 4. Commands of a script -/

/-- The label of a mode that is defined in place. -/
def inlineLabel : String := "[temp]"

/-- The mode to run a command in. An override is applied: its pager replaces the one before. -/
def effectiveMode (options : CommandOptions) : Act σ Mode :=
  match options.mode with
  | some (.named name) => do
    let mode ← Act.lift (c.registry.require name)
    c.installPager mode name
    pure mode
  | some (.inline mode) => do
    c.installPager mode inlineLabel
    pure mode
  | none => do
    let s ← Act.state
    Act.lift (c.registry.require s.mode)

/-- Runs a command. -/
def runCommand (text : String) (options : CommandOptions) : Act σ String := do
  let mode ← c.effectiveMode options
  c.execute text mode options

/-- Runs a command in the present mode. -/
def command (text : String) : Act σ String := c.runCommand text {}

end Console

end DeviceCli
