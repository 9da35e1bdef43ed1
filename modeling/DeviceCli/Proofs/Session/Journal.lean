import DeviceCli.Session.Walk

/-!
# What a journal says

A journal mixes what a session did with what it noted. Three things are read from it here.

* `deedsOf`: what was sent and waited, without the remarks;
* `landings`: the modes that hops entered, as they were noted;
* `requestsOf`: what was sent.
-/

namespace DeviceCli

/-! ## 1. Deeds -/

/-- Whether something was done, rather than noted. -/
def Effect.isDeed : Effect → Bool
  | noted _ => false
  | _ => true

/-- What a session sent and waited, without its remarks. -/
def deedsOf (journal : List Effect) : List Effect := journal.filter Effect.isDeed

@[simp] theorem deedsOf_append (front back : List Effect) :
    deedsOf (front ++ back) = deedsOf front ++ deedsOf back :=
  List.filter_append front back

@[simp] theorem deedsOf_nil : deedsOf [] = [] := rfl

@[simp] theorem deedsOf_noted (e : Event) (rest : List Effect) :
    deedsOf (.noted e :: rest) = deedsOf rest := rfl

@[simp] theorem deedsOf_sent (request : Request) (rest : List Effect) :
    deedsOf (.sent request :: rest) = .sent request :: deedsOf rest := rfl

@[simp] theorem deedsOf_slept (ms : Nat) (rest : List Effect) :
    deedsOf (.slept ms :: rest) = .slept ms :: deedsOf rest := rfl

/-! ## 2. Landings -/

/-- The mode that an effect says was entered. -/
def landing? : Effect → Option String
  | .noted (.engine message fields) =>
    if message = Console.hopMessage then fields.lookup "to" else none
  | _ => none

/-- The modes entered, as the journal has them. -/
def landings (journal : List Effect) : List String := journal.filterMap landing?

@[simp] theorem landings_nil : landings [] = [] := rfl

@[simp] theorem landings_append (front back : List Effect) :
    landings (front ++ back) = landings front ++ landings back :=
  List.filterMap_append

theorem landings_hopEvent (left landed : String) (depth : Nat) :
    landings [.noted (Console.hopEvent left landed depth)] = [landed] := by
  simp [landings, landing?, Console.hopEvent, List.lookup_cons]

theorem landings_noted {message : String} (h : message ≠ Console.hopMessage)
    (fields : List (String × String)) : landings [.noted (.engine message fields)] = [] := by
  simp [landings, landing?, h]

/-! ## 3. Requests -/

/-- The request that an effect says was sent. -/
def request? : Effect → Option Request
  | .sent request => some request
  | _ => none

/-- What a session sent, in order. -/
def requestsOf (journal : List Effect) : List Request := journal.filterMap request?

@[simp] theorem requestsOf_append (front back : List Effect) :
    requestsOf (front ++ back) = requestsOf front ++ requestsOf back :=
  List.filterMap_append

@[simp] theorem requestsOf_sent (request : Request) : requestsOf [.sent request] = [request] := rfl

@[simp] theorem requestsOf_slept (ms : Nat) : requestsOf [.slept ms] = [] := rfl

@[simp] theorem requestsOf_noted (e : Event) : requestsOf [.noted e] = [] := rfl

/-- Requests are deeds. -/
@[simp] theorem requestsOf_deedsOf (journal : List Effect) :
    requestsOf (deedsOf journal) = requestsOf journal := by
  induction journal with
  | nil => rfl
  | cons e rest ih =>
    have hcons : ∀ es, requestsOf (e :: es) = requestsOf [e] ++ requestsOf es :=
      fun es => requestsOf_append [e] es
    cases e with
    | sent request => rw [deedsOf_sent, hcons, ih, ← hcons]
    | slept ms => rw [deedsOf_slept, hcons, ih, ← hcons]
    | noted event => rw [deedsOf_noted, ih, hcons, requestsOf_noted, List.nil_append]

end DeviceCli
