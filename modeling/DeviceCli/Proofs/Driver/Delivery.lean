import DeviceCli.Proofs.Driver.Stage
import DeviceCli.Proofs.Inventory.Store
import Mathlib.Data.List.Forall2

/-!
# What a driver hands in

A driver hands values to the stores of the device and of the configuration, and asks for files. Each
such `Delivery` is taken or refused. One that is refused leaves the stage as it was; one that is
taken changes a single entry (`Delivery.perform_cases`).

* `Delivery.Accepted`: which deliveries are taken;
* `Delivery.Changes`: what changes then, and what does not;
* `Stocked`: what holds of all that is kept, `Stocked.changes` that each delivery preserves it;
* `Delivered`: one delivery after another, refused ones included;
* `stocked_of_delivered`: **what is kept after any number of deliveries**.
-/

namespace DeviceCli

/-! ## 1. Deliveries -/

/-- A call by which a driver hands a value to a store, or asks for a file. -/
inductive Delivery where
  /-- an attribute of the device -/
  | set (access : Access) (key : String) (value : Json)
  /-- one more value of a collection of the device -/
  | add (access : Access) (name : String) (value : Json)
  /-- an attribute of the configuration -/
  | config (key : String) (value : Json)
  /-- a file of the device, to be kept as an attribute of the configuration -/
  | download (key method file : String) (store : Option String)

namespace Delivery

variable {σ τ : Type}

/-- Performs a delivery. -/
def perform : Delivery → StageAct σ ConfigStore τ Unit
  | set access key value => DeviceCall.perform access (.setJson key value)
  | add access name value => DeviceCall.perform access (.addJson name value)
  | config key value => ConfigCall.perform (.setJson key value)
  | download key method file store => ConfigCall.perform (.download key method file store)

/-- Which deliveries are taken. -/
def Accepted : Delivery → Prop
  | set _ key value => key ≠ "" ∧ value ≠ .null
  | add access name value => access = .full ∧ name ≠ "" ∧ value ≠ .null
  | config key value => key ≠ "" ∧ value ≠ .null
  | download key method file _ =>
    ∃ how : DownloadMethod, key ≠ "" ∧ Text.lowerLatin method = how.name ∧ file ≠ ""

/-- **What a delivery changes that is taken.** An attribute is replaced, a value or a download comes
    at the end, and nothing else is different. -/
def Changes : Delivery → Stage σ ConfigStore τ → Stage σ ConfigStore τ → Prop
  | set _ key value, s, t =>
    s.device.attributes.Updated key (.ofAny value) t.device.attributes ∧
      t.device.collections = s.device.collections ∧ t.device.resets = s.device.resets ∧
      t.other = s.other
  | add _ name value, s, t =>
    (∃ kept, Filed value kept ∧
      s.device.collections.Updated name (s.device.collection name ++ [kept])
        t.device.collections) ∧
      t.device.attributes = s.device.attributes ∧ t.device.resets = s.device.resets ∧
      t.other = s.other
  | config key value, s, t =>
    s.other.attributes.Updated key (.ofAny value) t.other.attributes ∧
      t.other.downloads = s.other.downloads ∧ t.device = s.device
  | download key method file store, s, t =>
    (∃ how : DownloadMethod, Text.lowerLatin method = how.name ∧
      t.other.downloads = s.other.downloads ++
        [⟨key, how, file, if store = some "" then none else store⟩]) ∧
      t.other.attributes = s.other.attributes ∧ t.device = s.device

/-- **A delivery is taken and changes what it names, or it is refused and changes nothing.** -/
theorem perform_cases (call : Delivery) (s : Stage σ ConfigStore τ) :
    (call.Accepted ∧ ∃ t, call.perform.runOn s = some (.ok (), t) ∧ call.Changes s t) ∨
      (¬ call.Accepted ∧ ∃ f, call.perform.runOn s = some (.error f, s)) := by
  cases call with
  | set access key value =>
    have hrun : (perform (set access key value)).runOn s = _ :=
      StageAct.runOn_onDevice s fun d => d.setJson key value
    rw [hrun]
    rcases s.device.setJson_cases key value with ⟨haccepted, hstore⟩ | ⟨hrefused, f, hstore⟩
    · rw [hstore]
      exact .inl ⟨haccepted, _, rfl, Keyed.updated_insert _ _ _, rfl, rfl, rfl⟩
    · rw [hstore]
      exact .inr ⟨hrefused, f, rfl⟩
  | add access name value =>
    have hrun : (perform (add access name value)).runOn s = _ :=
      StageAct.runOn_onDevice s fun d => d.addJson access name value
    rw [hrun]
    rcases s.device.addJson_cases access name value with ⟨haccepted, hstore⟩ | ⟨hrefused, f, hstore⟩
    · rw [hstore]
      exact .inl ⟨haccepted, _, rfl, ⟨_, filed_marked value, Keyed.updated_insert _ _ _⟩,
        rfl, rfl, rfl⟩
    · rw [hstore]
      exact .inr ⟨hrefused, f, rfl⟩
  | config key value =>
    have hrun : (perform (config key value)).runOn s = _ :=
      StageAct.runOn_onOther s fun c => c.setJson key value
    rw [hrun]
    rcases s.other.setJson_cases key value with ⟨haccepted, hstore⟩ | ⟨hrefused, f, hstore⟩
    · rw [hstore]
      exact .inl ⟨haccepted, _, rfl, Keyed.updated_insert _ _ _, rfl, rfl⟩
    · rw [hstore]
      exact .inr ⟨hrefused, f, rfl⟩
  | download key method file store =>
    unfold perform ConfigCall.perform
    dsimp only
    rcases Download.make_cases key method file store with
      ⟨how, haccepted, hmake⟩ | ⟨hrefused, f, hmake⟩
    · rw [hmake]
      exact .inl ⟨⟨how, haccepted⟩, _, rfl, ⟨how, haccepted.2.1, rfl⟩, rfl, rfl⟩
    · rw [hmake]
      exact .inr ⟨fun ⟨how, h⟩ => hrefused how h, f, rfl⟩

end Delivery

/-! ## 2. What is kept -/

/-- **What holds of all that is kept.** Nothing is kept under an empty name, and nothing is null.
    Objects of collections are marked. A download has a file, and stores it under its own name or
    under one that is not empty. -/
structure Stocked (device : DeviceStore) (config : ConfigStore) : Prop where
  attributes : ∀ key a, device.attributes.get? key = some a → key ≠ "" ∧ a.toJson ≠ .null
  collections : ∀ name list, device.collections.get? name = some list →
    name ≠ "" ∧ ∀ a ∈ list, a.toJson ≠ .null ∧ a.IsMarked
  settings : ∀ key a, config.attributes.get? key = some a → key ≠ "" ∧ a.toJson ≠ .null
  downloads : ∀ d ∈ config.downloads, d.key ≠ "" ∧ d.remote ≠ "" ∧ d.store ≠ some ""

/-- What holds of the attributes of a store holds when a value is put under a key. -/
theorem named_of_updated {m m' : Keyed Attribute} {key : String} {value : Json}
    (h : m.Updated key (.ofAny value) m') (hkey : key ≠ "") (hvalue : value ≠ .null)
    (hm : ∀ key a, m.get? key = some a → key ≠ "" ∧ a.toJson ≠ .null) :
    ∀ key a, m'.get? key = some a → key ≠ "" ∧ a.toJson ≠ .null := by
  intro other a ha
  rcases h.cases ha with ⟨rfl, rfl⟩ | hold
  · exact ⟨hkey, Attribute.toJson_ofAny_ne_null hvalue⟩
  · exact hm other a hold

namespace Stocked

variable {σ τ : Type} {s t : Stage σ ConfigStore τ}

theorem empty : Stocked {} {} where
  attributes _ _ h := by cases h
  collections _ _ h := by cases h
  settings _ _ h := by cases h
  downloads _ h := by cases h

theorem collection (h : Stocked s.device s.other) (name : String) :
    ∀ a ∈ s.device.collection name, a.toJson ≠ .null ∧ a.IsMarked := by
  intro a ha
  unfold DeviceStore.collection at ha
  cases hfound : s.device.collections.get? name with
  | none =>
    rw [hfound] at ha
    cases ha
  | some list =>
    rw [hfound] at ha
    exact (h.collections name list hfound).2 a ha

/-- **Each delivery that is taken preserves it**, one case for each kind. -/
theorem changes (h : Stocked s.device s.other) {call : Delivery} (haccepted : call.Accepted)
    (hchanges : call.Changes s t) : Stocked t.device t.other := by
  cases call with
  | set access key value =>
    obtain ⟨hkey, hvalue⟩ := haccepted
    obtain ⟨hupdated, hcollections, -, hother⟩ := hchanges
    refine ⟨named_of_updated hupdated hkey hvalue h.attributes, ?_, ?_, ?_⟩
    · rw [hcollections]
      exact h.collections
    · rw [hother]
      exact h.settings
    · rw [hother]
      exact h.downloads
  | add access name value =>
    obtain ⟨-, hname, hvalue⟩ := haccepted
    obtain ⟨⟨kept, hkept, hupdated⟩, hattributes, -, hother⟩ := hchanges
    refine ⟨?_, fun other list hlist => ?_, ?_, ?_⟩
    · rw [hattributes]
      exact h.attributes
    · rcases hupdated.cases hlist with ⟨rfl, rfl⟩ | hold
      · refine ⟨hname, fun a ha => ?_⟩
        rcases List.mem_append.mp ha with hold | hnew
        · exact h.collection other a hold
        · rw [List.mem_singleton.mp hnew]
          exact ⟨hkept.toJson_ne_null hvalue, hkept.isMarked⟩
      · exact h.collections other list hold
    · rw [hother]
      exact h.settings
    · rw [hother]
      exact h.downloads
  | config key value =>
    obtain ⟨hkey, hvalue⟩ := haccepted
    obtain ⟨hupdated, hdownloads, hdevice⟩ := hchanges
    refine ⟨?_, ?_, named_of_updated hupdated hkey hvalue h.settings, ?_⟩
    · rw [hdevice]
      exact h.attributes
    · rw [hdevice]
      exact h.collections
    · rw [hdownloads]
      exact h.downloads
  | download key method file store =>
    obtain ⟨-, hkey, -, hfile⟩ := haccepted
    obtain ⟨⟨how, -, hdownloads⟩, hattributes, hdevice⟩ := hchanges
    refine ⟨?_, ?_, ?_, fun d hd => ?_⟩
    · rw [hdevice]
      exact h.attributes
    · rw [hdevice]
      exact h.collections
    · rw [hattributes]
      exact h.settings
    · rw [hdownloads] at hd
      rcases List.mem_append.mp hd with hold | hnew
      · exact h.downloads d hold
      · rw [List.mem_singleton.mp hnew]
        refine ⟨hkey, hfile, ?_⟩
        show (if store = some "" then none else store) ≠ some ""
        by_cases hstore : store = some ""
        · rw [if_pos hstore]
          exact nofun
        · rw [if_neg hstore]
          exact hstore

end Stocked

/-! ## 3. One delivery after another -/

section Run

variable {σ τ : Type} {s t : Stage σ ConfigStore τ} {made : List (Delivery × Except Failure Unit)}

/-- **One delivery after another**, each with what it came to. The driver goes on whatever that
    was. -/
inductive Delivered : Stage σ ConfigStore τ → List (Delivery × Except Failure Unit) →
    Stage σ ConfigStore τ → Prop
  | nil (s : Stage σ ConfigStore τ) : Delivered s [] s
  | cons {s m t : Stage σ ConfigStore τ} {call : Delivery} {outcome : Except Failure Unit}
      {rest : List (Delivery × Except Failure Unit)}
      (first : call.perform.runOn s = some (outcome, m)) (then_ : Delivered m rest t) :
      Delivered s ((call, outcome) :: rest) t

/-- The values that were added to a collection, in order. -/
def addedTo (name : String) (made : List (Delivery × Except Failure Unit)) : List Json :=
  made.filterMap fun
    | (.add _ other value, .ok _) => if other = name then some value else none
    | _ => none

/-- Any deliveries can be made, one after the other. -/
theorem exists_delivered (calls : List Delivery) (s : Stage σ ConfigStore τ) :
    ∃ made t, made.map (·.1) = calls ∧ Delivered s made t := by
  induction calls generalizing s with
  | nil => exact ⟨[], s, rfl, .nil s⟩
  | cons call rest ih =>
    rcases call.perform_cases s with ⟨-, m, hrun, -⟩ | ⟨-, f, hrun⟩
    · obtain ⟨made, t, hcalls, hmade⟩ := ih m
      exact ⟨(call, .ok ()) :: made, t, congrArg (call :: ·) hcalls, .cons hrun hmade⟩
    · obtain ⟨made, t, hcalls, hmade⟩ := ih s
      exact ⟨(call, .error f) :: made, t, congrArg (call :: ·) hcalls, .cons hrun hmade⟩

/-- What holds of all that is kept holds along a run, by induction on the deliveries. -/
theorem Stocked.delivered (h : Delivered s made t) (hs : Stocked s.device s.other) :
    Stocked t.device t.other := by
  induction h with
  | nil s => exact hs
  | @cons s m t call outcome rest first _ ih =>
    rcases call.perform_cases s with ⟨haccepted, n, hrun, hchanges⟩ | ⟨-, f, hrun⟩
    · rw [hrun] at first
      cases first
      exact ih (hs.changes haccepted hchanges)
    · rw [hrun] at first
      cases first
      exact ih hs

/-- A delivery that is taken leaves each collection as it was, with what it adds to it at the end. -/
theorem collection_of_changes {call : Delivery} (hchanges : call.Changes s t) (name : String) :
    ∃ added, t.device.collection name = s.device.collection name ++ added ∧
      List.Forall₂ Filed (addedTo name [(call, .ok ())]) added := by
  cases call with
  | set access key value =>
    obtain ⟨-, hcollections, -⟩ := hchanges
    refine ⟨[], ?_, .nil⟩
    rw [List.append_nil, DeviceStore.collection, hcollections, DeviceStore.collection]
  | add access other value =>
    obtain ⟨⟨kept, hkept, hupdated⟩, -⟩ := hchanges
    by_cases hname : other = name
    · subst hname
      refine ⟨[kept], ?_, ?_⟩
      · rw [DeviceStore.collection, hupdated.1]
        rfl
      · simpa [addedTo] using hkept
    · refine ⟨[], ?_, ?_⟩
      · rw [List.append_nil, DeviceStore.collection, hupdated.2 name fun h => hname h.symm,
          DeviceStore.collection]
      · simp [addedTo, hname]
  | config key value =>
    obtain ⟨-, -, hdevice⟩ := hchanges
    exact ⟨[], by rw [List.append_nil, hdevice], .nil⟩
  | download key method file store =>
    obtain ⟨-, -, hdevice⟩ := hchanges
    exact ⟨[], by rw [List.append_nil, hdevice], .nil⟩

theorem collection_of_delivered (h : Delivered s made t) (name : String) :
    ∃ added, t.device.collection name = s.device.collection name ++ added ∧
      List.Forall₂ Filed (addedTo name made) added := by
  induction h with
  | nil s => exact ⟨[], (List.append_nil _).symm, .nil⟩
  | @cons s m t call outcome rest first _ ih =>
    obtain ⟨more, hmore, hfiled⟩ := ih
    have hsplit : addedTo name ((call, outcome) :: rest) =
        addedTo name [(call, outcome)] ++ addedTo name rest :=
      List.filterMap_append (l := [(call, outcome)])
    rcases call.perform_cases s with ⟨-, n, hrun, hchanges⟩ | ⟨-, f, hrun⟩
    · rw [hrun] at first
      cases first
      obtain ⟨added, hadded, hfirst⟩ := collection_of_changes hchanges name
      refine ⟨added ++ more, ?_, ?_⟩
      · rw [hmore, hadded, List.append_assoc]
      · rw [hsplit]
        exact List.rel_append hfirst hfiled
    · rw [hrun] at first
      cases first
      have hnone : addedTo name [(call, Except.error f)] = [] := by cases call <;> rfl
      refine ⟨more, hmore, ?_⟩
      rw [hsplit, hnone]
      exact hfiled

/-- **What is kept after any number of deliveries**, taken or refused, by a driver that goes on
    whatever becomes of them.

    * All that is kept has a name, is not null, and is marked where it is an object of a collection,
      if this was so at the start.
    * A collection holds what it held and the values that were added to it, in order. Of an object
      only the marker is changed.
    * A delivery is taken if it is accepted, and changes what it names and nothing else. It is
      refused if it is not, and changes nothing. -/
theorem stocked_of_delivered (hs : Stocked s.device s.other) :
    (∀ calls : List Delivery, ∃ made t, made.map (·.1) = calls ∧ Delivered s made t) ∧
    (∀ made t, Delivered s made t → Stocked t.device t.other ∧
      ∀ name, ∃ added, t.device.collection name = s.device.collection name ++ added ∧
        List.Forall₂ Filed (addedTo name made) added) ∧
    ∀ (call : Delivery) (m n : Stage σ ConfigStore τ) (outcome : Except Failure Unit),
      call.perform.runOn m = some (outcome, n) →
        (call.Accepted ∧ outcome = .ok () ∧ call.Changes m n) ∨
        (¬ call.Accepted ∧ (∃ f, outcome = .error f) ∧ n = m) := by
  refine ⟨fun calls => exists_delivered calls s,
    fun made t h => ⟨hs.delivered h, collection_of_delivered h⟩, fun call m n outcome h => ?_⟩
  rcases call.perform_cases m with ⟨haccepted, n', hrun, hchanges⟩ | ⟨hrefused, f, hrun⟩
  · rw [hrun] at h
    cases h
    exact .inl ⟨haccepted, rfl, hchanges⟩
  · rw [hrun] at h
    cases h
    exact .inr ⟨hrefused, ⟨f, rfl⟩, rfl⟩

/-- An object that comes with a member under the marker, an empty key, an object for a store that may
    only be set, and a download in capital letters with an empty name to store it under. -/
theorem stocked_of_delivered_module :
    let given : Json := .object [("__", .int 1), ("slot", .string "0")]
    let start : Stage Unit ConfigStore Unit := ⟨⟨(), .start "user", []⟩, {}, {}, []⟩
    let made : List (Delivery × Except Failure Unit) :=
      [(.add .full "module" given, .ok ()),
        (.set .setOnly "" (.bool true), .error (.argument (.emptyKey "device.set"))),
        (.add .setOnly "module" given, .error (.argument .addUnavailable)),
        (.download "running" "SCP" "flash:/config" (some ""), .ok ())]
    ∃ t, Delivered start made t ∧ Stocked t.device t.other ∧
      t.device.collection "module" =
        [.structured (.object [("__", .object []), ("slot", .string "0")])] ∧
      t.other.downloads = [⟨"running", .scp, "flash:/config", none⟩] := by
  intro given start made
  have hmade : Delivered start made _ := .cons rfl (.cons rfl (.cons rfl (.cons rfl (.nil _))))
  obtain ⟨-, hkept, -⟩ := stocked_of_delivered (s := start) Stocked.empty
  exact ⟨_, hmade, (hkept made _ hmade).1, rfl, rfl⟩

end Run

end DeviceCli
