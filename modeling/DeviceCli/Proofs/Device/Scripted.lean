import DeviceCli.Device.Scripted
import DeviceCli.Proofs.Regex.Search

/-!
# Runs of a scripted device

A scripted device gives its replies in the order in which they were queued, one to a send, whatever
is queued and slept in between. What a send comes to depends on its reply and its request alone: the
patterns that are kept from earlier sends make no difference.

* `Kept` and `respond_of_kept`: the patterns kept are those of their sources, so that keeping them
  goes unnoticed;
* `answer_eq_ok_iff` and `answer_eq_error_iff`: what a reply comes to, by the first prompt that does
  not pass it over;
* `run_scripted`: **what a device has done after any sequence of operations.**
-/

namespace DeviceCli.Scripted

open DeviceCli.Regex

/-! ## 1. The patterns kept -/

/-- The patterns kept are those of their sources. -/
def Kept (patterns : Keyed Regex) : Prop :=
  ∀ source pattern, patterns.get? source = some pattern →
    Regex.compileMultiLine source = .ok pattern

theorem kept_empty : Kept .empty := by
  intro source pattern h
  rw [Keyed.get?_empty] at h
  cases h

theorem Kept.insert {patterns : Keyed Regex} (h : Kept patterns) {source : String}
    {pattern : Regex} (hpattern : Regex.compileMultiLine source = .ok pattern) :
    Kept (patterns.insert source pattern) := by
  intro other found hfound
  rw [Keyed.get?_insert] at hfound
  split at hfound
  · next heq =>
    cases hfound
    exact heq ▸ hpattern
  · exact h other found hfound

/-- **A prompt is compiled to its pattern**, whether that was kept or not. -/
theorem compiled_of_ok {patterns : Keyed Regex} (h : Kept patterns) {source : String}
    {pattern : Regex} (hpattern : Regex.compileMultiLine source = .ok pattern) :
    ∃ kept, compiled patterns source = .ok (pattern, kept) ∧ Kept kept := by
  rw [compiled]
  split
  · next found hfound =>
    cases hpattern.symm.trans (h source found hfound)
    exact ⟨patterns, rfl, h⟩
  · rw [hpattern]
    exact ⟨_, rfl, h.insert hpattern⟩

/-- What is no pattern is never among those that are kept. -/
theorem compiled_of_error {patterns : Keyed Regex} (h : Kept patterns) {source : String}
    {e : Regex.Error} (he : Regex.compileMultiLine source = .error e) :
    compiled patterns source = .error (.transport "compiling prompt pattern" e.message none) := by
  rw [compiled]
  split
  · next found hfound => cases he.symm.trans (h source found hfound)
  · rw [he]

/-! ## 2. Prompts -/

/-- **A prompt passes a reply over**: it is a pattern that does not occur in it. -/
def PassesOver (reply source : String) : Prop :=
  ∃ pattern, Regex.compileMultiLine source = .ok pattern ∧ ¬ pattern.Occurs reply

/-- **A prompt splits a reply**: it matches a part of it, nowhere further left, and what is around
    that part is the output. -/
def Splits (pattern : Regex) (reply : String) (index : Nat) (x : Exchange) : Prop :=
  ∃ front part back, reply = front ++ part ++ back ∧ pattern.Leftmost front part back ∧
    x.output = front ++ back ∧ x.fullOutput = reply ∧ x.matchIndex = index ∧
    x.group? 0 = some part

/-- What comes of a prompt that does not pass a reply over. -/
inductive Stops (reply : String) (index : Nat) (source : String) : Except Failure Exchange → Prop
  | matched {pattern m} (hpattern : Regex.compileMultiLine source = .ok pattern)
      (hfound : pattern.find? reply = some m) :
      Stops reply index source (.ok (exchangeOf reply index m))
  | invalid {e} (he : Regex.compileMultiLine source = .error e) :
      Stops reply index source (.error (.transport "compiling prompt pattern" e.message none))

/-- **What comes of prompts that are tried in order**, the first of them at an index. -/
inductive Tries (reply : String) (timeout : Option Nat) :
    Nat → List String → Except Failure Exchange → Prop
  | timeout {index} : Tries reply timeout index [] (.error (.timeout timeout reply))
  | pass {index source rest r} (hover : PassesOver reply source)
      (hrest : Tries reply timeout (index + 1) rest r) : Tries reply timeout index (source :: rest) r
  | stop {index source rest r} (hstop : Stops reply index source r) :
      Tries reply timeout index (source :: rest) r

section Prompts

variable {reply : String} {timeout : Option Nat} {index : Nat} {source : String}
  {prompts : List String} {r r' : Except Failure Exchange}

theorem find?_eq_none_iff_passesOver {pattern : Regex}
    (hpattern : Regex.compileMultiLine source = .ok pattern) :
    pattern.find? reply = none ↔ PassesOver reply source := by
  rw [find?_eq_none_iff (framed_of_compileWith hpattern)]
  constructor
  · exact fun h => ⟨pattern, hpattern, h⟩
  · rintro ⟨other, hother, h⟩
    cases hpattern.symm.trans hother
    exact h

theorem Stops.not_passesOver (h : Stops reply index source r) : ¬ PassesOver reply source := by
  cases h with
  | matched hpattern hfound =>
    intro hover
    rw [(find?_eq_none_iff_passesOver hpattern).mpr hover] at hfound
    cases hfound
  | invalid he =>
    rintro ⟨pattern, hpattern, -⟩
    cases he.symm.trans hpattern

theorem Stops.unique (h : Stops reply index source r) (h' : Stops reply index source r') :
    r = r' := by
  cases h with
  | matched hpattern hfound =>
    cases h' with
    | matched hpattern' hfound' =>
      cases hpattern.symm.trans hpattern'
      cases hfound.symm.trans hfound'
      rfl
    | invalid he => cases he.symm.trans hpattern
  | invalid he =>
    cases h' with
    | matched hpattern => cases he.symm.trans hpattern
    | invalid he' =>
      cases he.symm.trans he'
      rfl

theorem Tries.unique (h : Tries reply timeout index prompts r)
    (h' : Tries reply timeout index prompts r') : r = r' := by
  induction h with
  | timeout =>
    cases h'
    rfl
  | pass hover _ ih =>
    cases h' with
    | pass _ hrest => exact ih hrest
    | stop hstop => exact absurd hover hstop.not_passesOver
  | stop hstop =>
    cases h' with
    | pass hover => exact absurd hover hstop.not_passesOver
    | stop hstop' => exact hstop.unique hstop'

/-- **Trying prompts**, whatever patterns are kept. -/
theorem tries_matchPrompts {patterns : Keyed Regex} (h : Kept patterns) :
    Tries reply timeout index prompts (matchPrompts reply timeout index prompts patterns).1 ∧
      Kept (matchPrompts reply timeout index prompts patterns).2 := by
  induction prompts generalizing index patterns with
  | nil => exact ⟨.timeout, h⟩
  | cons source rest ih =>
    rw [matchPrompts]
    cases hsource : Regex.compileMultiLine source with
    | error e =>
      rw [compiled_of_error h hsource]
      exact ⟨.stop (.invalid hsource), h⟩
    | ok pattern =>
      obtain ⟨kept, hcompiled, hkept⟩ := compiled_of_ok h hsource
      cases hfound : pattern.find? reply with
      | some m =>
        simp only [hcompiled, hfound]
        exact ⟨.stop (.matched hsource hfound), hkept⟩
      | none =>
        simp only [hcompiled, hfound]
        exact (ih hkept).imp_left (.pass ((find?_eq_none_iff_passesOver hsource).mp hfound))

/-- Either all prompts pass the reply over, or the first that does not decides. -/
theorem tries_iff : Tries reply timeout index prompts r ↔
    ((∀ source ∈ prompts, PassesOver reply source) ∧ r = .error (.timeout timeout reply)) ∨
      ∃ before source after, prompts = before ++ source :: after ∧
        (∀ source ∈ before, PassesOver reply source) ∧
        Stops reply (index + before.length) source r := by
  constructor
  · intro h
    induction h with
    | timeout => exact .inl ⟨nofun, rfl⟩
    | @pass index source rest r hover _ ih =>
      rcases ih with ⟨hall, rfl⟩ | ⟨before, source', after, rfl, hall, hstop⟩
      · exact .inl ⟨List.forall_mem_cons.mpr ⟨hover, hall⟩, rfl⟩
      · refine .inr ⟨source :: before, source', after, rfl,
          List.forall_mem_cons.mpr ⟨hover, hall⟩, ?_⟩
        rw [List.length_cons, ← Nat.succ_add_eq_add_succ]
        exact hstop
    | @stop index source rest r hstop => exact .inr ⟨[], source, rest, rfl, nofun, hstop⟩
  · rintro (⟨hall, rfl⟩ | ⟨before, source, after, rfl, hall, hstop⟩)
    · induction prompts generalizing index with
      | nil => exact .timeout
      | cons source rest ih =>
        obtain ⟨hover, hall⟩ := List.forall_mem_cons.mp hall
        exact .pass hover (ih hall)
    · induction before generalizing index with
      | nil => exact .stop hstop
      | cons source' before ih =>
        obtain ⟨hover, hall⟩ := List.forall_mem_cons.mp hall
        rw [List.length_cons, ← Nat.succ_add_eq_add_succ] at hstop
        exact .pass hover (ih hall hstop)

/-- **A prompt that matches splits the reply.** -/
theorem splits_of_find? {pattern : Regex} (hpattern : Regex.compileMultiLine source = .ok pattern)
    {m : Match} (hfound : pattern.find? reply = some m) :
    Splits pattern reply index (exchangeOf reply index m) := by
  obtain ⟨front, part, back, htext, hleftmost, hwithout, hgroup⟩ :=
    leftmost_of_find? (framed_of_compileWith hpattern) hfound
  refine ⟨front, part, back, htext, hleftmost, hwithout, rfl, rfl, ?_⟩
  rw [Exchange.group?, exchangeOf, ← List.head?_eq_getElem?, hgroup]
  rfl

end Prompts

/-! ## 3. Answers -/

/-- **What a send comes to does not depend on the patterns that were kept.** -/
theorem respond_of_kept {patterns : Keyed Regex} (h : Kept patterns) (reply : Option Reply)
    (request : Request) :
    (respond reply request patterns).1 = answer reply request ∧
      Kept (respond reply request patterns).2 := by
  cases reply with
  | none => exact ⟨rfl, h⟩
  | some reply =>
    cases reply with
    | failure message => exact ⟨rfl, h⟩
    | text reply =>
      obtain ⟨htries, hkept⟩ := @tries_matchPrompts reply request.timeout 0 request.prompts _ h
      exact ⟨htries.unique (tries_matchPrompts kept_empty).1, hkept⟩

theorem answer_eq_iff {reply : String} {request : Request} {r : Except Failure Exchange} :
    answer (some (.text reply)) request = r ↔
      Tries reply request.timeout 0 request.prompts r := by
  have htries : Tries reply request.timeout 0 request.prompts
      (answer (some (.text reply)) request) := (tries_matchPrompts kept_empty).1
  constructor
  · rintro rfl
    exact htries
  · exact htries.unique

/-- **The first prompt that does not pass a reply over decides**: if it matches, it splits the
    reply. -/
theorem answer_eq_ok_iff {reply : String} {request : Request} {x : Exchange} :
    answer (some (.text reply)) request = .ok x ↔
      ∃ before source after pattern m, request.prompts = before ++ source :: after ∧
        (∀ source ∈ before, PassesOver reply source) ∧
        Regex.compileMultiLine source = .ok pattern ∧ pattern.find? reply = some m ∧
        x = exchangeOf reply before.length m ∧ Splits pattern reply before.length x := by
  rw [answer_eq_iff, tries_iff]
  simp only [Nat.zero_add]
  constructor
  · rintro (⟨-, h⟩ | ⟨before, source, after, hprompts, hall, hstop⟩)
    · cases h
    · cases hstop with
      | @matched pattern m hpattern hfound =>
        exact ⟨before, source, after, pattern, m, hprompts, hall, hpattern, hfound, rfl,
          splits_of_find? hpattern hfound⟩
  · rintro ⟨before, source, after, pattern, m, hprompts, hall, hpattern, hfound, rfl, -⟩
    exact .inr ⟨before, source, after, hprompts, hall, .matched hpattern hfound⟩

/-- **A reply comes to a failure** if all prompts pass it over, or if the first that does not is no
    pattern. -/
theorem answer_eq_error_iff {reply : String} {request : Request} {f : Failure} :
    answer (some (.text reply)) request = .error f ↔
      ((∀ source ∈ request.prompts, PassesOver reply source) ∧
        f = .timeout request.timeout reply) ∨
      ∃ before source after e, request.prompts = before ++ source :: after ∧
        (∀ source ∈ before, PassesOver reply source) ∧
        Regex.compileMultiLine source = .error e ∧
        f = .transport "compiling prompt pattern" e.message none := by
  rw [answer_eq_iff, tries_iff]
  simp only [Nat.zero_add]
  constructor
  · rintro (⟨hall, h⟩ | ⟨before, source, after, hprompts, hall, hstop⟩)
    · cases h
      exact .inl ⟨hall, rfl⟩
    · cases hstop with
      | @invalid e he => exact .inr ⟨before, source, after, e, hprompts, hall, he, rfl⟩
  · rintro (⟨hall, rfl⟩ | ⟨before, source, after, e, hprompts, hall, he, rfl⟩)
    · exact .inl ⟨hall, rfl⟩
    · exact .inr ⟨before, source, after, hprompts, hall, .invalid he⟩

/-! ## 4. Sequences of operations -/

/-- Something that is done to a device. -/
inductive Operation where
  | queue (reply : Reply)
  | send (request : Request)
  | sleep (ms : Nat)

/-- What comes of the sends of a sequence of operations, and the device behind it. -/
def run : List Operation → Scripted → List (Except Failure Exchange) × Scripted
  | [], d => ([], d)
  | .queue reply :: rest, d => run rest (d.queue reply)
  | .send request :: rest, d =>
    ((d.send request).1 :: (run rest (d.send request).2).1, (run rest (d.send request).2).2)
  | .sleep ms :: rest, d => run rest (d.sleep ms)

/-- The replies that are queued, in order. -/
def queued (list : List Operation) : List Reply :=
  list.filterMap fun
    | .queue reply => some reply
    | _ => none

/-- The requests that are sent, in order. -/
def requests (list : List Operation) : List Request :=
  list.filterMap fun
    | .send request => some request
    | _ => none

/-- The times that are slept, in order. -/
def pauses (list : List Operation) : List Nat :=
  list.filterMap fun
    | .sleep ms => some ms
    | _ => none

/-- The reply that each send takes, if there is one: the first of those that wait. -/
def drawn : List Operation → List Reply → List (Option Reply)
  | [], _ => []
  | .queue reply :: rest, waiting => drawn rest (waiting ++ [reply])
  | .send _ :: rest, waiting => waiting.head? :: drawn rest waiting.tail
  | .sleep _ :: rest, waiting => drawn rest waiting

section Sequences

variable (list : List Operation) (d : Scripted)

/-- **One send**: it comes to what the first of the replies that wait comes to, and takes it away. -/
theorem send_of_kept {d : Scripted} (h : Kept d.patterns) (request : Request) :
    (d.send request).1 = answer d.replies.head? request ∧
      (d.send request).2.replies = d.replies.tail ∧ Kept (d.send request).2.patterns := by
  obtain ⟨hanswer, hkept⟩ := respond_of_kept h d.replies.head? request
  exact ⟨hanswer, rfl, hkept⟩

theorem kept_run {d : Scripted} (h : Kept d.patterns) : Kept (run list d).2.patterns := by
  induction list generalizing d with
  | nil => exact h
  | cons operation rest ih =>
    cases operation with
    | queue reply => exact ih h
    | send request => exact ih (send_of_kept h request).2.2
    | sleep ms => exact ih h

/-- **Each send comes to what its reply comes to.** -/
theorem results_run {d : Scripted} (h : Kept d.patterns) :
    (run list d).1 = List.zipWith answer (drawn list d.replies) (requests list) := by
  induction list generalizing d with
  | nil => rfl
  | cons operation rest ih =>
    cases operation with
    | queue reply => exact ih h
    | send request =>
      obtain ⟨hanswer, -, hkept⟩ := send_of_kept h request
      exact congrArg₂ List.cons hanswer (ih hkept)
    | sleep ms => exact ih h

theorem length_drawn (waiting : List Reply) :
    (drawn list waiting).length = (requests list).length := by
  induction list generalizing waiting with
  | nil => rfl
  | cons operation rest ih =>
    cases operation with
    | queue reply => exact ih _
    | send request => exact congrArg (· + 1) (ih _)
    | sleep ms => exact ih _

/-- **No reply is lost, and none is taken twice**: those that were there and those that were queued
    are those that were taken and those that wait, in order. -/
theorem replies_run :
    d.replies ++ queued list = (drawn list d.replies).filterMap id ++ (run list d).2.replies := by
  induction list generalizing d with
  | nil => exact List.append_nil _
  | cons operation rest ih =>
    cases operation with
    | queue reply =>
      have hrest := ih (d.queue reply)
      rw [queue, List.append_assoc] at hrest
      exact hrest
    | send request =>
      have hrest := ih (d.send request).2
      rw [show (d.send request).2.replies = d.replies.tail from rfl] at hrest
      cases hreplies : d.replies with
      | nil =>
        rw [hreplies] at hrest
        exact hrest
      | cons reply more =>
        rw [hreplies] at hrest
        exact congrArg (reply :: ·) hrest
    | sleep ms => exact ih (d.sleep ms)

theorem sent_run : (run list d).2.sent = d.sent ++ requests list := by
  induction list generalizing d with
  | nil => exact (List.append_nil _).symm
  | cons operation rest ih =>
    cases operation with
    | queue reply => exact ih (d.queue reply)
    | send request =>
      have hrest := ih (d.send request).2
      rw [show (d.send request).2.sent = d.sent ++ [request] from rfl, List.append_assoc] at hrest
      exact hrest
    | sleep ms => exact ih (d.sleep ms)

theorem sleeps_run : (run list d).2.sleeps = d.sleeps ++ pauses list := by
  induction list generalizing d with
  | nil => exact (List.append_nil _).symm
  | cons operation rest ih =>
    cases operation with
    | queue reply => exact ih (d.queue reply)
    | send request => exact ih (d.send request).2
    | sleep ms =>
      have hrest := ih (d.sleep ms)
      rw [sleep, List.append_assoc] at hrest
      exact hrest

/-- What another send takes is the first of the replies that wait. -/
theorem drawn_concat (request : Request) :
    drawn (list ++ [.send request]) d.replies =
      drawn list d.replies ++ [(run list d).2.replies.head?] := by
  induction list generalizing d with
  | nil => rfl
  | cons operation rest ih =>
    cases operation with
    | queue reply => exact ih (d.queue reply)
    | send request' => exact congrArg (d.replies.head? :: ·) (ih (d.send request').2)
    | sleep ms => exact ih (d.sleep ms)

end Sequences

/-- **A scripted device after any sequence of operations.**

    * Its sends came to what the replies come to that they took (`drawn`); the record has each of
      them, and each sleep, in order.
    * The replies that were queued are those that were taken and those that wait, in order, so as
      many wait as were queued and not taken.
    * Another send takes the first reply that waits, or none if there is none, and comes to what that
      reply comes to.
    * A reply comes to an exchange if a prompt matches it that is offered behind prompts that pass it
      over; the prompt splits it. It comes to a failure if all prompts pass it over, or if one is no
      pattern that is offered behind prompts that do. -/
theorem run_scripted (replies : List Reply) (list : List Operation) :
    let d := (run list (ofReplies replies)).2
    let taken := drawn list replies
    (run list (ofReplies replies)).1 = List.zipWith answer taken (requests list) ∧
    taken.length = (requests list).length ∧
    d.sent = requests list ∧ d.sleeps = pauses list ∧
    replies ++ queued list = taken.filterMap id ++ d.replies ∧
    (replies ++ queued list).length = (taken.filterMap id).length + d.pending ∧
    (∀ request, drawn (list ++ [.send request]) replies = taken ++ [d.replies.head?] ∧
      (d.send request).1 = answer d.replies.head? request ∧
      (d.send request).2.replies = d.replies.tail) ∧
    (∀ request, answer none request = .error (.timeout request.timeout "")) ∧
    (∀ message request, answer (some (.failure message)) request =
      .error (.transport "scripted device" message none)) ∧
    (∀ reply request x, answer (some (.text reply)) request = .ok x ↔
      ∃ before source after pattern m, request.prompts = before ++ source :: after ∧
        (∀ source ∈ before, PassesOver reply source) ∧
        Regex.compileMultiLine source = .ok pattern ∧ pattern.find? reply = some m ∧
        x = exchangeOf reply before.length m ∧ Splits pattern reply before.length x) ∧
    ∀ reply request f, answer (some (.text reply)) request = .error f ↔
      ((∀ source ∈ request.prompts, PassesOver reply source) ∧
        f = .timeout request.timeout reply) ∨
      ∃ before source after e, request.prompts = before ++ source :: after ∧
        (∀ source ∈ before, PassesOver reply source) ∧
        Regex.compileMultiLine source = .error e ∧
        f = .transport "compiling prompt pattern" e.message none := by
  have hkept := kept_run list (d := ofReplies replies) kept_empty
  have hreplies := replies_run list (ofReplies replies)
  refine ⟨results_run list kept_empty, length_drawn list replies, sent_run list _,
    sleeps_run list _, hreplies, ?_, fun request => ?_, fun request => rfl,
    fun message request => rfl, fun reply request x => answer_eq_ok_iff,
    fun reply request f => answer_eq_error_iff⟩
  · exact (congrArg List.length hreplies).trans List.length_append
  · obtain ⟨hanswer, htail, -⟩ := send_of_kept hkept request
    exact ⟨drawn_concat list (ofReplies replies) request, hanswer, htail⟩

end DeviceCli.Scripted
