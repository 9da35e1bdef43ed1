import DeviceCli.Device.Scripted

/-!
# The queue of a scripted device

Each send takes one of the replies that were prepared, and a send that finds none, or a reply that
no prompt matches, comes to nothing. So there are only as many answers as there are replies, and
whoever stops at the first send that comes to nothing sends at most one text more.

* `Unmatched`: a send that comes to nothing; `send_of_unmatched`: it fails;
* `Served`: requests that are all answered, with waits in between;
* `Stretch`: requests up to the first that is not answered; `Stretch.ends`: **an unmatched send is
  the last of its stretch**;
* `Stretches.length_le`: **stretches send at most one text each** beyond the replies that wait.
-/

namespace DeviceCli.Scripted

/-! ## 1. Sends that come to nothing -/

/-- The pattern that a device takes for a prompt: the one that it has kept, or else the one that it
    compiles the prompt to, if it is a pattern. -/
def taken? (patterns : Keyed Regex) (source : String) : Option Regex :=
  (patterns.get? source).or (Regex.compileMultiLine source).toOption

/-- **A send comes to nothing**: no reply is left, or the next one is a text in which none of the
    prompts is found. -/
def Unmatched (d : Scripted) (request : Request) : Prop :=
  d.replies = [] ∨ ∃ reply rest, d.replies = .text reply :: rest ∧
    ∀ source ∈ request.prompts, ∀ pattern, taken? d.patterns source = some pattern →
      pattern.find? reply = none

/-- What is taken for a prompt is kept, and makes no difference to any other. -/
theorem taken?_of_compiled {patterns kept : Keyed Regex} {source : String} {pattern : Regex}
    (h : compiled patterns source = .ok (pattern, kept)) :
    taken? patterns source = some pattern ∧ taken? kept = taken? patterns := by
  unfold compiled at h
  cases hget : patterns.get? source with
  | some found =>
    rw [hget] at h
    cases h
    exact ⟨by rw [taken?, hget, Option.some_or], rfl⟩
  | none =>
    rw [hget] at h
    cases hcompile : Regex.compileMultiLine source with
    | error e =>
      rw [hcompile] at h
      cases h
    | ok found =>
      rw [hcompile] at h
      cases h
      have hsource : taken? patterns source = some pattern := by
        rw [taken?, hget, hcompile]
        rfl
      refine ⟨hsource, funext fun other => ?_⟩
      by_cases heq : other = source
      · rw [heq, hsource, taken?, Keyed.get?_insert, if_pos rfl, Option.some_or]
      · rw [taken?, Keyed.get?_insert, if_neg heq, taken?]

/-- Prompts that are not found in a reply come to a failure, by induction on them. -/
theorem matchPrompts_of_unmatched {reply : String} {timeout : Option Nat} {index : Nat}
    {prompts : List String} {patterns : Keyed Regex}
    (h : ∀ source ∈ prompts, ∀ pattern, taken? patterns source = some pattern →
      pattern.find? reply = none) :
    ∃ f, (matchPrompts reply timeout index prompts patterns).1 = .error f := by
  induction prompts generalizing index patterns with
  | nil => exact ⟨_, rfl⟩
  | cons source rest ih =>
    obtain ⟨hsource, hrest⟩ := List.forall_mem_cons.mp h
    rw [matchPrompts]
    cases hcompiled : compiled patterns source with
    | error f => exact ⟨f, rfl⟩
    | ok found =>
      obtain ⟨pattern, kept⟩ := found
      obtain ⟨htaken, hkept⟩ := taken?_of_compiled hcompiled
      dsimp only
      rw [hsource pattern htaken]
      exact ih (hkept ▸ hrest)

theorem send_of_unmatched {d : Scripted} {request : Request} (h : d.Unmatched request) :
    ∃ f, (d.send request).1 = .error f := by
  rcases h with hnone | ⟨reply, rest, hreply, hprompts⟩
  · refine ⟨.timeout request.timeout "", ?_⟩
    rw [send, hnone]
    rfl
  · rw [send, hreply]
    exact matchPrompts_of_unmatched hprompts

/-- A send that is answered has taken a reply. -/
theorem pending_of_send_ok {d : Scripted} {request : Request} {x : Exchange}
    (h : (d.send request).1 = .ok x) : (d.send request).2.pending + 1 = d.pending := by
  have hpending : (d.send request).2.pending = d.replies.tail.length := rfl
  have hne : d.replies ≠ [] := by
    intro hnone
    have hun : d.Unmatched request := .inl hnone
    obtain ⟨f, hf⟩ := send_of_unmatched hun
    rw [hf] at h
    cases h
  rw [hpending, pending, List.length_tail]
  have hpos : 0 < d.replies.length := List.length_pos_iff.mpr hne
  omega

theorem pending_send_le (d : Scripted) (request : Request) :
    (d.send request).2.pending ≤ d.pending := by
  have hpending : (d.send request).2.pending = d.replies.tail.length := rfl
  rw [hpending, pending, List.length_tail]
  omega

/-! ## 2. Stretches -/

/-- Requests that are all answered, with waits in between, from one state of a device to another. -/
inductive Served : Scripted → List Request → Scripted → Prop
  | stop (d) : Served d [] d
  | slept {d e requests} (ms : Nat) (rest : Served (d.sleep ms) requests e) : Served d requests e
  | sent {d e request x requests} (h : (d.send request).1 = .ok x)
      (rest : Served (d.send request).2 requests e) : Served d (request :: requests) e

/-- **Requests up to the first that is not answered**: all of them are, or all but the last one,
    behind which there are only waits. -/
inductive Stretch : Scripted → List Request → Scripted → Prop
  | served {d e requests} (h : Served d requests e) : Stretch d requests e
  | failed {d m e front request f} (h : Served d front m) (hf : (m.send request).1 = .error f)
      (rest : Served (m.send request).2 [] e) : Stretch d (front ++ [request]) e

/-- Stretches in a row. -/
inductive Stretches : Scripted → List (List Request) → Scripted → Prop
  | nil (d) : Stretches d [] d
  | cons {d m e part parts} (h : Stretch d part m) (rest : Stretches m parts e) :
      Stretches d (part :: parts) e

section Stretch

variable {d m e : Scripted} {front requests : List Request} {request : Request}
  {parts : List (List Request)}

theorem Served.append (h : Served d front m) (h' : Served m requests e) :
    Served d (front ++ requests) e := by
  induction h with
  | stop d => exact h'
  | slept ms rest ih => exact .slept ms (ih h')
  | sent h rest ih => exact .sent h (ih h')

/-- What comes in front of a stretch, if all of it is answered, is a part of the stretch. -/
theorem Served.stretch (h : Served d front m) (h' : Stretch m requests e) :
    Stretch d (front ++ requests) e := by
  cases h' with
  | served h' => exact .served (h.append h')
  | failed h' hf rest =>
    rw [← List.append_assoc]
    exact .failed (h.append h') hf rest

/-- Each reply that is taken is an answer. -/
theorem Served.length_add_pending (h : Served d requests e) :
    requests.length + e.pending = d.pending := by
  induction h with
  | stop d => exact Nat.zero_add _
  | slept ms rest ih => exact ih
  | sent h rest ih =>
    have htaken := pending_of_send_ok h
    rw [List.length_cons]
    omega

/-- The device records what it is sent. -/
theorem Served.record (h : Served d requests e) : e.sent = d.sent ++ requests := by
  induction h with
  | stop d => exact (List.append_nil _).symm
  | slept ms rest ih => exact ih
  | @sent d e request x requests h rest ih =>
    have hsent : (d.send request).2.sent = d.sent ++ [request] := rfl
    rw [ih, hsent, List.append_assoc]
    rfl

theorem Stretch.length_add_pending_le (h : Stretch d requests e) :
    requests.length + e.pending ≤ d.pending + 1 := by
  cases h with
  | served h =>
    have hall := h.length_add_pending
    omega
  | @failed m _ front request f h hf rest =>
    have hfront := h.length_add_pending
    have hrest := rest.length_add_pending
    have hlast := pending_send_le m request
    rw [List.length_append, List.length_singleton]
    rw [List.length_nil] at hrest
    omega

theorem Stretch.record (h : Stretch d requests e) : e.sent = d.sent ++ requests := by
  cases h with
  | served h => exact h.record
  | @failed m _ front request f h hf rest =>
    have hsent : (m.send request).2.sent = m.sent ++ [request] := rfl
    rw [rest.record, hsent, h.record, List.append_nil, List.append_assoc]

/-- What is in front of a request of a stretch is answered. -/
theorem Served.split {back : List Request} (h : Served d (front ++ request :: back) e) :
    ∃ m, Served d front m ∧ ∃ x, (m.send request).1 = .ok x := by
  generalize hall : front ++ request :: back = requests at h
  induction h generalizing front with
  | stop d =>
    exact absurd hall (List.append_ne_nil_of_right_ne_nil front (List.cons_ne_nil request back))
  | slept ms rest ih =>
    obtain ⟨m, hfront, hx⟩ := ih hall
    exact ⟨m, .slept ms hfront, hx⟩
  | @sent d e first x requests h rest ih =>
    cases front with
    | nil =>
      obtain ⟨rfl, -⟩ := List.cons.inj hall
      exact ⟨d, .stop d, x, h⟩
    | cons head front =>
      obtain ⟨rfl, htail⟩ := List.cons.inj hall
      obtain ⟨m, hfront, hx⟩ := ih htail
      exact ⟨m, .sent h hfront, hx⟩

/-- **An unmatched send is the last of its stretch.** -/
theorem Stretch.ends {back : List Request} (h : Stretch d (front ++ request :: back) e) :
    ∃ m, Served d front m ∧ (m.Unmatched request → back = []) := by
  generalize hall : front ++ request :: back = requests at h
  -- a request that is answered is not unmatched
  have hserved : ∀ {back' : List Request} {n : Scripted},
      Served d (front ++ request :: back') n →
        ∃ m, Served d front m ∧ (m.Unmatched request → back = []) := by
    intro back' n hn
    obtain ⟨m, hfront, x, hx⟩ := hn.split
    refine ⟨m, hfront, ?_⟩
    intro hun
    obtain ⟨f, hf⟩ := send_of_unmatched hun
    cases hx.symm.trans hf
  cases h with
  | served h => exact hserved (hall.symm ▸ h)
  | @failed m _ before last f h hf rest =>
    rcases List.eq_nil_or_concat back with rfl | ⟨init, final, rfl⟩
    · obtain ⟨rfl, -⟩ := List.append_inj' hall rfl
      exact ⟨m, h, fun _ => rfl⟩
    · have hinit : (front ++ request :: init) ++ [final] = before ++ [last] := by
        rw [← hall, List.concat_eq_append, List.append_assoc, List.cons_append]
      obtain ⟨rfl, -⟩ := List.append_inj' hinit rfl
      exact hserved h

theorem Stretches.record (h : Stretches d parts e) : e.sent = d.sent ++ parts.flatten := by
  induction h with
  | nil d => exact (List.append_nil _).symm
  | cons h rest ih => rw [ih, h.record, List.flatten_cons, List.append_assoc]

theorem Stretches.length_add_pending_le (h : Stretches d parts e) :
    parts.flatten.length + e.pending ≤ d.pending + parts.length := by
  induction h with
  | nil d => exact Nat.le_of_eq (Nat.add_comm 0 d.pending)
  | cons h rest ih =>
    have hfirst := h.length_add_pending_le
    rw [List.flatten_cons, List.length_append, List.length_cons]
    omega

/-- **Stretches send at most one text each** beyond the replies that wait. -/
theorem Stretches.length_le (h : Stretches d parts e) :
    parts.flatten.length ≤ d.pending + parts.length :=
  Nat.le_trans (Nat.le_add_right _ _) h.length_add_pending_le

end Stretch

end DeviceCli.Scripted
