import DeviceCli.Proofs.Session.Journal

/-!
# The pages of a command

A command is sent once. As long as the device answers with a full page, the pager's response is
sent, and the first answer of another kind decides what the command comes to.

* `Link.answers`, `Link.sendAll`: a device under a list of requests, one after the other;
* `Console.pageRequests`: what a command sends on so many pages;
* `Console.outcome`: what it comes to, by the pages and the last answer;
* `readPagesOn_eq`: reading the pages, by induction on them;
* `execute_eq_outcome`: **a command over any number of pages.**
-/

namespace DeviceCli

/-! ## 1. Requests in a row -/

namespace Link

variable {σ : Type} (l : Link σ)

/-- What a device answers to requests, one after the other. -/
def answers : List Request → σ → List (Except Failure Exchange)
  | [], _ => []
  | request :: rest, device =>
    (l.send device request).1 :: answers rest (l.send device request).2

/-- A device after requests, one after the other. -/
def sendAll : List Request → σ → σ
  | [], device => device
  | request :: rest, device => sendAll rest (l.send device request).2

@[simp] theorem length_answers (requests : List Request) (device : σ) :
    (l.answers requests device).length = requests.length := by
  induction requests generalizing device with
  | nil => rfl
  | cons request rest ih => simp [answers, ih]

end Link

namespace Console

variable {σ : Type} (c : Console σ)

/-! ## 2. Reading pages -/

/-- A request while pages are read. -/
def Reading.request (r : Reading) (text : String) : Request :=
  ⟨text, r.prompts, r.timeout.or c.engine.commandTimeout⟩

/-- What is sent while so many pages are read: a text, and a response for each page. -/
def Reading.requests (r : Reading) (text : String) (pages : Nat) : List Request :=
  r.request c text :: match r.response with
    | some response => List.replicate pages (r.request c response)
    | none => []

/-- The texts of full pages, prompts of the pager included. -/
def textOf (pages : List Exchange) : String := String.join (pages.map (·.fullOutput))

theorem textOf_cons (page : Exchange) (rest : List Exchange) :
    textOf (page :: rest) = page.fullOutput ++ textOf rest := by
  simp [textOf]

/-- What reading comes to, by what was collected and the last answer. -/
def Reading.result (r : Reading) (collected : String) (last : Except Failure Exchange) :
    Except Failure String :=
  match last >>= inRange r.prompts.length with
  | .error f => .error (f.inContext (commandContext r.command))
  | .ok x => .ok (collected ++ x.output)

variable {c} {r : Reading} {text collected : String} {count : Nat} {w : World σ}

/-- Without pages the text alone is sent. -/
theorem Reading.requests_zero (c : Console σ) (r : Reading) (text : String) :
    r.requests c text 0 = [r.request c text] := by
  unfold Reading.requests
  cases r.response <;> rfl

/-- Behind a page the response is sent, as if it were the text of what is left. -/
theorem Reading.requests_succ {response : String} (hresponse : r.response = some response)
    (pages : Nat) :
    r.requests c text (pages + 1) = r.request c text :: r.requests c response pages := by
  unfold Reading.requests
  rw [hresponse]
  rfl

theorem eq_ok_of_inRange {answer : Except Failure Exchange} {offered : Nat} {x : Exchange}
    (h : answer >>= inRange offered = .ok x) : answer = .ok x := by
  cases answer with
  | error f => cases h
  | ok y =>
    change inRange offered y = _ at h
    rw [inRange] at h
    split at h
    · exact h
    · cases h

/-- Each round of reading begins with one exchange. -/
theorem runOn_exchange_inContext (c : Console σ) (r : Reading) (text : String) (w : World σ) :
    (Act.inContext (commandContext r.command) (c.exchange text r.prompts r.timeout)).runOn w =
      some ((c.answerTo (r.request c text) w >>= inRange r.prompts.length).mapError
        (Failure.inContext (commandContext r.command)), c.afterSend (r.request c text) w) := by
  rw [Act.runOn_inContext, runOn_exchange]
  rfl

/-- A full page goes to what is collected, and the response is to be sent next. -/
theorem runOn_readPage_of_page {response : String} {page : Exchange}
    (hresponse : r.response = some response) (hoffered : 1 < r.prompts.length)
    (hpage : page.matchIndex = 1) (hanswer : c.answerTo (r.request c text) w = .ok page) :
    ∃ w₁, (c.readPage r text collected count).runOn w =
        some (.ok (.more response (collected ++ page.fullOutput)), w₁) ∧
      w₁.device = (c.link.send w.device (r.request c text)).2 ∧ w₁.state = w.state ∧
      deedsOf w₁.journal = deedsOf w.journal ++ [.sent (r.request c text)] := by
  have hrange : inRange r.prompts.length page = .ok page := if_pos (hpage ▸ hoffered)
  have hsent := c.runOn_exchange_inContext r text w
  rw [hanswer] at hsent
  change _ = some ((inRange r.prompts.length page).mapError _, _) at hsent
  rw [hrange] at hsent
  rw [readPage, Act.runOn_bind_ok hsent, hresponse]
  dsimp only
  rw [if_pos hpage, Act.runOn_bind_ok (Act.runOn_note _ _ _)]
  exact ⟨_, rfl, rfl, rfl, by simp [afterSend]⟩

/-- Another answer is the last one. -/
theorem runOn_readPage_of_last {last : Except Failure Exchange}
    (hlast : ∀ x, last = .ok x → x.matchIndex = 1 → r.response = none)
    (hanswer : c.answerTo (r.request c text) w = last) :
    (c.readPage r text collected count).runOn w =
      some ((r.result collected last).map .done, c.afterSend (r.request c text) w) := by
  have hsent := c.runOn_exchange_inContext r text w
  rw [hanswer] at hsent
  rw [readPage, Reading.result]
  cases hx : last >>= inRange r.prompts.length with
  | error f =>
    rw [hx] at hsent
    rw [Act.runOn_bind_error hsent]
    rfl
  | ok x =>
    rw [hx] at hsent
    rw [Act.runOn_bind_ok hsent]
    have hend : last = .ok x := eq_ok_of_inRange hx
    cases hresponse : r.response with
    | none => rfl
    | some response =>
      have hne : x.matchIndex ≠ 1 := fun h => by simpa [hresponse] using hlast x hend h
      dsimp only
      rw [if_neg hne]
      rfl

/-- **Reading pages**, by induction on them: each round sends one request and keeps the whole text
    of a page, and the last one decides. -/
theorem readPagesOn_eq {pages : List Exchange} {last : Except Failure Exchange}
    (hoffered : r.response.isSome → 1 < r.prompts.length)
    (hpages : ∀ page ∈ pages, page.matchIndex = 1)
    (hlast : ∀ x, last = .ok x → x.matchIndex = 1 → r.response = none)
    (hanswers : c.link.answers (r.requests c text pages.length) w.device =
      pages.map .ok ++ [last]) :
    ∃ w', c.readPagesOn r text collected count w =
        some (r.result (collected ++ textOf pages) last, w') ∧
      w'.device = c.link.sendAll (r.requests c text pages.length) w.device ∧
      w'.state = w.state ∧
      deedsOf w'.journal =
        deedsOf w.journal ++ (r.requests c text pages.length).map .sent := by
  induction pages generalizing text collected count w with
  | nil =>
    rw [List.length_nil, Reading.requests_zero] at hanswers ⊢
    have hanswer : c.answerTo (r.request c text) w = last := (List.cons.inj hanswers).1
    refine ⟨c.afterSend (r.request c text) w, ?_, rfl, rfl, by simp [afterSend]⟩
    rw [readPagesOn, runOn_readPage_of_last hlast hanswer, textOf, List.map_nil, String.join_nil,
      String.append_empty]
    cases r.result collected last <;> rfl
  | cons page rest ih =>
    cases hresponse : r.response with
    | none =>
      have hlength := congrArg List.length hanswers
      simp [Reading.requests, hresponse] at hlength
    | some response =>
      rw [List.length_cons, Reading.requests_succ hresponse] at hanswers ⊢
      obtain ⟨hfirst, hrest⟩ := List.cons.inj hanswers
      obtain ⟨w₁, hrun, hdevice, hstate, hdeeds⟩ :
          ∃ w₁, (c.readPage r text collected count).runOn w =
            some (.ok (.more response (collected ++ page.fullOutput)), w₁) ∧ _ :=
        runOn_readPage_of_page hresponse (hoffered (by rw [hresponse]; rfl))
          (hpages page List.mem_cons_self) hfirst
      have hpages' : ∀ p ∈ rest, p.matchIndex = 1 :=
        fun p hp => hpages p (List.mem_cons_of_mem _ hp)
      obtain ⟨w', hrun', hdevice', hstate', hdeeds'⟩ := ih hpages' (hdevice ▸ hrest)
      refine ⟨w', ?_, ?_, hstate'.trans hstate, ?_⟩
      · rw [readPagesOn, hrun]
        exact hrun'.trans (by rw [textOf_cons, String.append_assoc])
      · rw [hdevice', hdevice]
        rfl
      · rw [hdeeds', hdeeds]
        simp

/-! ## 3. Commands -/

/-- The state in which a command runs: its prompt is pinned no longer if the command or its mode
    changes the prompt. -/
def commandState (mode : Mode) (options : CommandOptions) (s : SessionState) : SessionState :=
  if options.clearPrompt || mode.clearPrompt then { s with strict := none } else s

/-- How the pages of a command are read in a state. -/
def commandReading (text : String) (mode : Mode) (options : CommandOptions) (s : SessionState) :
    Reading :=
  { command := text
    prompts := offeredPrompts mode s
    timeout := options.timeout
    response := s.pager.map (·.response) }

/-- What a command sends on so many pages: its text, and the response of the pager for each page.
    All requests offer the same prompts, for the same time. -/
def pageRequests (c : Console σ) (text : String) (mode : Mode) (options : CommandOptions)
    (s : SessionState) (pages : Nat) : List Request :=
  let request (sent : String) : Request :=
    { text := sent
      prompts := offeredPrompts mode s
      timeout := options.timeout.or c.engine.commandTimeout }
  request (if options.noCr then text else text ++ c.engine.lineEnding) ::
    match s.pager with
    | some pager => List.replicate pages (request pager.response)
    | none => []

/-- What a command comes to, by the device behind it, its pages and the last answer. -/
def outcome (c : Console σ) (text : String) (mode : Mode) (s : SessionState) (device : σ)
    (pages : List Exchange) : Except Failure Exchange → Except Failure String
  | .error f => .error (f.inContext (commandContext text))
  | .ok x =>
    if x.matchIndex = 0 then
      let output := textOf pages ++ x.output
      let cleaned := c.link.dropEcho device
        (Screen.normalize (if c.engine.stripControls then Screen.stripControls output else output))
        text
      match mode.error.bind (·.detail? cleaned) with
      | some detail => .error (.reported detail text)
      | none => .ok cleaned
    else
      .error ((outOfRange x (offeredPrompts mode s).length).inContext (commandContext text))

theorem length_offeredPrompts (mode : Mode) (s : SessionState) :
    (offeredPrompts mode s).length = if s.pager.isSome then 2 else 1 := by
  rw [offeredPrompts]
  cases s.pager <;> rfl

theorem requests_commandReading (text : String) (mode : Mode) (options : CommandOptions)
    (s : SessionState) (pages : Nat) :
    (commandReading text mode options s).requests c (c.outgoing text options) pages =
      c.pageRequests text mode options s pages := by
  rw [Reading.requests, pageRequests, commandReading, outgoing]
  cases s.pager <;> rfl

@[simp] theorem pager_commandState (mode : Mode) (options : CommandOptions) (s : SessionState) :
    (commandState mode options s).pager = s.pager := by
  rw [commandState]
  split <;> rfl

/-- The prompt of an installed pager is offered. -/
theorem offers_commandReading (text : String) (mode : Mode) (options : CommandOptions)
    (s : SessionState) (h : (commandReading text mode options s).response.isSome) :
    1 < (commandReading text mode options s).prompts.length := by
  have hpager : s.pager.isSome := by simpa [commandReading] using h
  show 1 < (offeredPrompts mode s).length
  rw [length_offeredPrompts, if_pos hpager]
  decide

/-- A command is its reading, and what is made of the output. -/
theorem runOn_execute (text : String) (mode : Mode) (options : CommandOptions) (w : World σ) :
    (c.execute text mode options).runOn w =
      (c.readPages (commandReading text mode options (commandState mode options w.state))
        (c.outgoing text options) >>= fun output => do
          let w ← get
          Act.lift (checked mode text (c.link.dropEcho w.device (c.cleaned output) text))).runOn
        { w with state := commandState mode options w.state } := by
  rw [execute, commandState]
  split
  · rw [Act.runOn_bind_ok (Act.runOn_modifyState w _), Act.runOn_bind_ok (Act.runOn_get _)]
    rfl
  · rw [Act.runOn_bind_ok (Act.runOn_get _)]
    rfl

/-- What a command comes to, by what its reading comes to. -/
theorem runOn_execute_of_readPagesOn {mode : Mode} {options : CommandOptions} {w' : World σ}
    {result : Except Failure String}
    (h : c.readPagesOn (commandReading text mode options (commandState mode options w.state))
      (c.outgoing text options) "" 0 { w with state := commandState mode options w.state } =
        some (result, w')) :
    (c.execute text mode options).runOn w =
      some (result >>= fun output =>
        checked mode text (c.link.dropEcho w'.device (c.cleaned output) text), w') := by
  rw [← runOn_readPages] at h
  rw [runOn_execute]
  cases result with
  | error f => exact Act.runOn_bind_error h _
  | ok output =>
    refine (Act.runOn_bind_ok h _).trans ?_
    rw [Act.runOn_bind_ok (Act.runOn_get w'), Act.runOn_lift]
    rfl

/-- The last answer of a command, if it is in range and not of the pager, is that of the mode. -/
theorem matchIndex_eq_zero_of_inRange {mode : Mode} {s : SessionState} {x : Exchange}
    (hx : x.matchIndex < (offeredPrompts mode s).length)
    (hone : x.matchIndex = 1 → s.pager = none) :
    x.matchIndex = 0 := by
  rw [length_offeredPrompts] at hx
  by_cases h : x.matchIndex = 1
  · rw [hone h, h] at hx
    exact absurd hx (by decide)
  · split at hx <;> omega

/-- An output is checked by the error pattern of the mode, where there is one. -/
theorem checked_eq (mode : Mode) (command output : String) :
    checked mode command output = match mode.error.bind (·.detail? output) with
      | some detail => .error (.reported detail command)
      | none => .ok output := by
  rw [checked]
  cases mode.error with
  | none => rfl
  | some pattern =>
    show (match pattern.detail? output with
      | some detail => _
      | none => _) = match pattern.detail? output with
      | some detail => _
      | none => _
    cases pattern.detail? output <;> rfl

/-- What is made of the result of reading is the outcome. -/
theorem outcome_eq (c : Console σ) (text : String) (mode : Mode) (options : CommandOptions)
    (s : SessionState) (device : σ) (pages : List Exchange) (last : Except Failure Exchange)
    (hlast : ∀ x, last = .ok x → x.matchIndex = 1 → s.pager = none) :
    c.outcome text mode s device pages last =
      ((commandReading text mode options s).result (textOf pages) last >>= fun output =>
        checked mode text (c.link.dropEcho device (c.cleaned output) text)) := by
  cases last with
  | error f => rfl
  | ok x =>
    show _ = (match inRange (offeredPrompts mode s).length x with
      | .error f => .error (f.inContext (commandContext text))
      | .ok x => .ok (textOf pages ++ x.output) : Except Failure String) >>= _
    rw [outcome, inRange]
    by_cases hx : x.matchIndex < (offeredPrompts mode s).length
    · rw [if_pos hx, if_pos (matchIndex_eq_zero_of_inRange hx (hlast x rfl))]
      show _ = checked mode text
        (c.link.dropEcho device (c.cleaned (textOf pages ++ x.output)) text)
      rw [checked_eq]
      rfl
    · have hzero : x.matchIndex ≠ 0 := fun h => hx (by rw [h]; exact Nat.succ_pos _)
      rw [if_neg hx, if_neg hzero]
      rfl

/-- **A command over any number of pages.** If the device answers with full pages and then with
    something else, or if no pager is installed, the command sends its text and the response to each
    page, offering the same prompts for the same time, and nothing else. It comes to the outcome of
    the pages and the last answer. -/
theorem execute_eq_outcome (text : String) (mode : Mode) (options : CommandOptions) (w : World σ)
    (pages : List Exchange) (last : Except Failure Exchange)
    (hpages : ∀ page ∈ pages, page.matchIndex = 1)
    (hlast : ∀ x, last = .ok x → x.matchIndex = 1 → w.state.pager = none)
    (hanswers : c.link.answers
      (c.pageRequests text mode options (commandState mode options w.state) pages.length)
      w.device = pages.map .ok ++ [last]) :
    let s := commandState mode options w.state
    let requests := c.pageRequests text mode options s pages.length
    ∃ w', (c.execute text mode options).runOn w =
        some (c.outcome text mode s w'.device pages last, w') ∧
      w'.state = s ∧ w'.device = c.link.sendAll requests w.device ∧
      deedsOf w'.journal = deedsOf w.journal ++ requests.map .sent ∧
      ∀ w₀, (c.effectiveMode options).runOn w₀ = some (.ok mode, w) →
        (c.runCommand text options).runOn w₀ =
          some (c.outcome text mode s w'.device pages last, w') := by
  intro s requests
  rw [← pager_commandState mode options] at hlast
  have hrequests := requests_commandReading (c := c) text mode options s pages.length
  have hresponse : ∀ x, last = .ok x → x.matchIndex = 1 →
      (commandReading text mode options s).response = none := fun x hx h => by
    show s.pager.map (·.response) = none
    rw [hlast x hx h]
    rfl
  rw [← hrequests] at hanswers
  obtain ⟨w', hread, hdevice, hstate, hdeeds⟩ : ∃ w',
      c.readPagesOn (commandReading text mode options s) (c.outgoing text options) "" 0
        { w with state := s } = some (_, w') ∧ _ :=
    readPagesOn_eq (offers_commandReading text mode options s) hpages hresponse hanswers
  rw [String.empty_append] at hread
  have hexecute : (c.execute text mode options).runOn w =
      some (c.outcome text mode s w'.device pages last, w') := by
    rw [runOn_execute_of_readPagesOn hread, outcome_eq c text mode options s _ _ _ hlast]
  rw [hrequests] at hdevice hdeeds
  exact ⟨w', hexecute, hstate, hdevice, hdeeds, fun w₀ h => by
    rw [runCommand, Act.runOn_bind_ok h, hexecute]⟩

/-- A console without modes on a device with canned answers. -/
def cannedConsole : Console (List (Except Failure Exchange)) := ⟨Link.canned, default, {}⟩

/-- The two full pages of a device. -/
def fullPages : List Exchange :=
  [ ⟨"show\r\none\n", "show\r\none\n--More--", 1, [some "--More--"]⟩,
    ⟨"two\n", "two\n--More--", 1, [some "--More--"]⟩ ]

/-- A session with a pager, on a device that is going to show two full pages and a last one. -/
def pagedWorld : World (List (Except Failure Exchange)) where
  device := fullPages.map .ok ++ [.ok ⟨"three\n", "three\n#", 0, [some "#"]⟩]
  state :=
    { mode := "enable"
      pager := some ⟨⟨"--More--", default⟩, " "⟩
      history := ["enable"] }

/-- Of the full pages the prompts of the pager are kept, of the last one the output alone. -/
theorem execute_eq_outcome_three :
    ∃ w', (cannedConsole.execute "show" { prompt := ⟨"#", default⟩ } {}).runOn pagedWorld =
        some (.ok "one\n--More--two\n--More--three\n", w') ∧
      deedsOf w'.journal =
        [ .sent ⟨"show\r", ["#", "--More--"], none⟩,
          .sent ⟨" ", ["#", "--More--"], none⟩,
          .sent ⟨" ", ["#", "--More--"], none⟩ ] := by
  obtain ⟨w', hrun, -, -, hdeeds, -⟩ := execute_eq_outcome (c := cannedConsole) "show"
    { prompt := ⟨"#", default⟩ } {} pagedWorld fullPages
    (.ok ⟨"three\n", "three\n#", 0, [some "#"]⟩) (by simp [fullPages]) (by rintro x ⟨⟩ h; cases h) (by rfl)
  have houtput : Screen.dropEcho (Screen.normalize (textOf fullPages ++ "three\n")) "show" =
      "one\n--More--two\n--More--three\n" := by decide +kernel
  refine ⟨w', hrun.trans ?_, hdeeds⟩
  show some (Except.ok (Screen.dropEcho (Screen.normalize (textOf fullPages ++ "three\n")) "show"),
    w') = _
  rw [houtput]

end Console

end DeviceCli
