import DeviceCli.Inventory.Store
import DeviceCli.Proofs.Keyed

/-!
# What gets into a store

A store takes an attribute under a key, one more value at the end of a collection, or one more
download, or it refuses. For each way to ask there is one lemma that says when it takes what it is
given, and what it then holds (`setJson_cases`, `addJson_cases`, `download_cases`).

* `Json.member?_canonical`: sorting the members of an object changes none of them;
* `Filed`: what a collection keeps of a value. **An object is kept with the marker**, and with each of
  its other members as it was (`filed_marked`);
* `Keyed.Updated`: a map in which one entry was set and no other changed.
-/

namespace DeviceCli

/-! ## 1. Objects -/

namespace Json

/-- Sorting makes a map of the members, in which the last of equal keys counts. -/
theorem canonicalMembers_entries (members : List (String × Json)) (m : Keyed Json) :
    canonicalMembers members m.entries =
      ((members.map fun e => (e.1, e.2.canonical)).foldl (fun m p => m.insert p.1 p.2) m).entries := by
  induction members generalizing m with
  | nil => simp [canonicalMembers]
  | cons member rest ih =>
    obtain ⟨key, value⟩ := member
    rw [canonicalMembers, List.map_cons, List.foldl_cons]
    exact ih (m.insert key value.canonical)

theorem canonical_object (members : List (String × Json)) :
    (object members).canonical =
      object (Keyed.ofList (members.map fun e => (e.1, e.2.canonical))).entries := by
  rw [canonical]
  exact congrArg object (canonicalMembers_entries members Keyed.empty)

/-- The members of an object that is written from a map are what the map holds. -/
theorem member?_entries (m : Keyed Json) (key : String) :
    (object m.entries).member? key = m.get? key := by
  rw [member?, ← Keyed.get?_ofList, Keyed.ofList_entries]

theorem lookup_map_canonical (members : List (String × Json)) (key : String) :
    (members.map fun e => (e.1, e.2.canonical)).lookup key =
      (members.lookup key).map canonical := by
  induction members with
  | nil => rfl
  | cons member rest ih =>
    obtain ⟨k, value⟩ := member
    rw [List.map_cons, List.lookup_cons, List.lookup_cons]
    by_cases hk : key = k
    · simp [hk]
    · have hne : (key == k) = false := beq_eq_false_iff_ne.mpr hk
      rw [hne]
      exact ih

/-- **Sorting the members of an object changes none of them**, but that they are sorted too. -/
theorem member?_canonical (members : List (String × Json)) (key : String) :
    (object members).canonical.member? key = ((object members).member? key).map canonical := by
  rw [canonical_object, member?_entries, Keyed.get?_ofList, ← List.map_reverse,
    lookup_map_canonical]
  rfl

end Json

/-! ## 2. Attributes -/

namespace Attribute

theorem ofAny_array (items : List Json) :
    ofAny (.array items) = structured (.array (Json.canonicalItems items)) := by
  show structured (Json.array items).canonical = _
  rw [Json.canonical]

theorem ofAny_object (members : List (String × Json)) :
    ofAny (.object members) = structured (.object
      (Keyed.ofList (members.map fun e => (e.1, e.2.canonical))).entries) := by
  show structured (Json.object members).canonical = _
  rw [Json.canonical_object]

/-- An attribute is null for no value but null. -/
theorem toJson_ofAny_ne_null {j : Json} (h : j ≠ .null) : (ofAny j).toJson ≠ .null := by
  cases j with
  | null => exact absurd rfl h
  | bool b => exact nofun
  | int n => exact nofun
  | real x => exact nofun
  | string s => exact nofun
  | array items =>
    rw [ofAny_array]
    exact nofun
  | object members =>
    rw [ofAny_object]
    exact nofun

/-- An object is marked. Whatever is no object need not be. -/
def IsMarked (a : Attribute) : Prop :=
  ∀ members, a = structured (.object members) →
    (Json.object members).member? marker = some (.object [])

end Attribute

/-- **What a collection keeps of a value.** An object is kept with an empty object under the marker,
    and with its other members unchanged; members of objects are sorted, each key once. Any other
    value is kept as it is. -/
inductive Filed : Json → Attribute → Prop
  | object {members kept : List (String × Json)} (hkept : Ascending kept)
      (hmarker : (Json.object kept).member? Attribute.marker = some (.object []))
      (hother : ∀ key, key ≠ Attribute.marker →
        (Json.object kept).member? key = ((Json.object members).member? key).map Json.canonical) :
      Filed (.object members) (.structured (.object kept))
  | plain {j : Json} (h : ∀ members, j ≠ .object members) : Filed j (.ofAny j)

theorem marked_of_not_object {j : Json} (h : ∀ members, j ≠ .object members) :
    (Attribute.ofAny j).marked = Attribute.ofAny j := by
  cases j with
  | object members => exact absurd rfl (h members)
  | array items =>
    rw [Attribute.ofAny_array]
    rfl
  | _ => rfl

/-- **Marking changes the marker and nothing else.** -/
theorem filed_marked (j : Json) : Filed j (Attribute.ofAny j).marked := by
  by_cases hobject : ∃ members, j = .object members
  · obtain ⟨members, rfl⟩ := hobject
    have hsorted : (Attribute.ofAny (.object members)).marked = .structured (.object
        ((Keyed.ofList (members.map fun e => (e.1, e.2.canonical))).insert Attribute.marker
          (.object [])).entries) := by
      rw [Attribute.ofAny_object]
      rfl
    rw [hsorted]
    refine .object (Keyed.ascending _) ?_ fun key hkey => ?_
    · rw [Json.member?_entries, Keyed.get?_insert, if_pos rfl]
    · rw [Json.member?_entries, Keyed.get?_insert, if_neg hkey, ← Json.member?_canonical,
        Json.canonical_object, Json.member?_entries]
  · have hplain : ∀ members, j ≠ .object members := fun members hm => hobject ⟨members, hm⟩
    rw [marked_of_not_object hplain]
    exact .plain hplain

namespace Filed

variable {j : Json} {a : Attribute}

theorem isMarked (h : Filed j a) : a.IsMarked := by
  intro members ha
  cases h with
  | object hkept hmarker hother =>
    cases ha
    exact hmarker
  | plain h =>
    cases j with
    | object members' => exact absurd rfl (h members')
    | array items =>
      rw [Attribute.ofAny_array] at ha
      cases ha
    | null => cases ha
    | bool b => cases ha
    | int n => cases ha
    | real x => cases ha
    | string s => cases ha

theorem toJson_ne_null (h : Filed j a) (hj : j ≠ .null) : a.toJson ≠ .null := by
  cases h with
  | object hkept hmarker hother => exact nofun
  | plain h => exact Attribute.toJson_ofAny_ne_null hj

end Filed

/-! ## 3. Changes of one entry -/

/-- A map in which one entry was set, and no other changed. -/
def Keyed.Updated {α : Type} (m : Keyed α) (key : String) (value : α) (m' : Keyed α) : Prop :=
  m'.get? key = some value ∧ ∀ other, other ≠ key → m'.get? other = m.get? other

theorem Keyed.updated_insert {α : Type} (m : Keyed α) (key : String) (value : α) :
    m.Updated key value (m.insert key value) := by
  refine ⟨?_, fun other hother => ?_⟩
  · rw [get?_insert, if_pos rfl]
  · rw [get?_insert, if_neg hother]

/-- What is read from the new map is the new value, or was in the old one. -/
theorem Keyed.Updated.cases {α : Type} {m m' : Keyed α} {key other : String} {value found : α}
    (h : m.Updated key value m') (hfound : m'.get? other = some found) :
    (other = key ∧ found = value) ∨ m.get? other = some found := by
  by_cases hother : other = key
  · subst hother
    rw [h.1] at hfound
    exact .inl ⟨rfl, (Option.some.inj hfound).symm⟩
  · rw [h.2 other hother] at hfound
    exact .inr hfound

/-! ## 4. Checks -/

theorem refuseEmptyKey_cases (key operation : String) :
    (key ≠ "" ∧ refuseEmptyKey key operation = .ok ()) ∨
      (key = "" ∧ ∃ f, refuseEmptyKey key operation = .error f) := by
  unfold refuseEmptyKey
  by_cases hkey : key = ""
  · rw [if_pos (String.isEmpty_iff.mpr hkey)]
    exact .inr ⟨hkey, _, rfl⟩
  · rw [if_neg fun h => hkey (String.isEmpty_iff.mp h)]
    exact .inl ⟨hkey, rfl⟩

theorem definedValue_cases (value : Json) (operation key : String) :
    (value ≠ .null ∧ definedValue value operation key = .ok (.ofAny value)) ∨
      (value = .null ∧ ∃ f, definedValue value operation key = .error f) := by
  cases value with
  | null => exact .inr ⟨rfl, _, rfl⟩
  | _ => exact .inl ⟨nofun, rfl⟩

/-- A method is known by its name in any case of the letters A to Z. -/
theorem parse_cases (method : String) :
    (∃ how : DownloadMethod, Text.lowerLatin method = how.name ∧
      DownloadMethod.parse method = .ok how) ∨
    ((∀ how : DownloadMethod, Text.lowerLatin method ≠ how.name) ∧
      ∃ f, DownloadMethod.parse method = .error f) := by
  have hname : ∀ (s : String) (how : DownloadMethod),
      DownloadMethod.named? s = some how ↔ s = how.name := by
    intro s how
    constructor
    · intro h
      unfold DownloadMethod.named? at h
      split at h
      · cases h
        rfl
      · cases h
        rfl
      · cases h
    · rintro rfl
      cases how <;> rfl
  unfold DownloadMethod.parse
  cases h : DownloadMethod.named? (Text.lowerLatin method) with
  | some how => exact .inl ⟨how, (hname _ _).mp h, rfl⟩
  | none =>
    refine .inr ⟨fun how hhow => ?_, _, rfl⟩
    rw [(hname _ _).mpr hhow] at h
    cases h

/-- A value under a key is checked twice: the key for being empty, the value for being null. -/
theorem checked_cases {α : Type} (key : String) (value : Json) (operation : String)
    (keep : Attribute → α) :
    let checked : Except Failure α := do
      refuseEmptyKey key operation
      let stored ← definedValue value operation key
      pure (keep stored)
    ((key ≠ "" ∧ value ≠ .null) ∧ checked = .ok (keep (.ofAny value))) ∨
      (¬ (key ≠ "" ∧ value ≠ .null) ∧ ∃ f, checked = .error f) := by
  intro checked
  rcases refuseEmptyKey_cases key operation with ⟨hkey, hok⟩ | ⟨hkey, f, hf⟩
  · rcases definedValue_cases value operation key with ⟨hvalue, hstored⟩ | ⟨hvalue, f, hf⟩
    · left
      refine ⟨⟨hkey, hvalue⟩, ?_⟩
      simp only [checked, hok, hstored]
      rfl
    · right
      refine ⟨fun h => h.2 hvalue, f, ?_⟩
      simp only [checked, hok, hf]
      rfl
  · right
    refine ⟨fun h => h.1 hkey, f, ?_⟩
    simp only [checked, hf]
    rfl

/-! ## 5. Ways to ask -/

theorem DeviceStore.setJson_cases (d : DeviceStore) (key : String) (value : Json) :
    ((key ≠ "" ∧ value ≠ .null) ∧ d.setJson key value =
      .ok { d with attributes := d.attributes.insert key (.ofAny value) }) ∨
    (¬ (key ≠ "" ∧ value ≠ .null) ∧ ∃ f, d.setJson key value = .error f) :=
  checked_cases key value "device.set" fun stored : Attribute =>
    ({ d with attributes := d.attributes.insert key stored } : DeviceStore)

/-- A value is added by those only who have access to the collections. -/
theorem DeviceStore.addJson_cases (d : DeviceStore) (access : Access) (name : String)
    (value : Json) :
    ((access = .full ∧ name ≠ "" ∧ value ≠ .null) ∧ d.addJson access name value =
      .ok { d with
        collections := d.collections.insert name
          (d.collection name ++ [(Attribute.ofAny value).marked]) }) ∨
    (¬ (access = .full ∧ name ≠ "" ∧ value ≠ .null) ∧
      ∃ f, d.addJson access name value = .error f) := by
  unfold addJson
  rcases definedValue_cases value "device.add" name with ⟨hvalue, hok⟩ | ⟨hvalue, f, hf⟩
  · rw [hok]
    cases access with
    | setOnly => exact .inr ⟨fun h => absurd h.1 (by decide), _, rfl⟩
    | full =>
      show (_ ∧ d.add .full name (.ofAny value) = _) ∨
        (_ ∧ ∃ f, d.add .full name (.ofAny value) = .error f)
      unfold add
      rcases refuseEmptyKey_cases name "device.add" with ⟨hname, hok⟩ | ⟨hname, f, hf⟩
      · dsimp only
        rw [hok]
        exact .inl ⟨⟨rfl, hname, hvalue⟩, rfl⟩
      · dsimp only
        rw [hf]
        exact .inr ⟨fun h => h.2.1 hname, f, rfl⟩
  · rw [hf]
    exact .inr ⟨fun h => h.2.2 hvalue, f, rfl⟩

theorem ConfigStore.setJson_cases (s : ConfigStore) (key : String) (value : Json) :
    ((key ≠ "" ∧ value ≠ .null) ∧ s.setJson key value =
      .ok { s with attributes := s.attributes.insert key (.ofAny value) }) ∨
    (¬ (key ≠ "" ∧ value ≠ .null) ∧ ∃ f, s.setJson key value = .error f) :=
  checked_cases key value "config.set" fun stored : Attribute =>
    ({ s with attributes := s.attributes.insert key stored } : ConfigStore)

/-- The name to store a file under, an empty one being none. -/
theorem filter_store (store : Option String) :
    (store.filter fun name => !name.isEmpty) = if store = some "" then none else store := by
  cases store with
  | none => rfl
  | some name =>
    by_cases hname : name = ""
    · simp [hname]
    · simp [hname]

theorem Download.make_cases (key method file : String) (store : Option String) :
    (∃ how : DownloadMethod, (key ≠ "" ∧ Text.lowerLatin method = how.name ∧ file ≠ "") ∧
      make key method file store =
        .ok ⟨key, how, file, if store = some "" then none else store⟩) ∨
    ((∀ how : DownloadMethod, ¬ (key ≠ "" ∧ Text.lowerLatin method = how.name ∧ file ≠ "")) ∧
      ∃ f, make key method file store = .error f) := by
  unfold make
  rcases refuseEmptyKey_cases key "config.download" with ⟨hkey, hok⟩ | ⟨hkey, f, hf⟩
  · rw [hok]
    rcases parse_cases method with ⟨how, hhow, hok⟩ | ⟨hother, f, hf⟩
    · rw [hok, filter_store]
      by_cases hfile : file = ""
      · subst hfile
        exact .inr ⟨fun _ h => h.2.2 rfl, _, rfl⟩
      · refine .inl ⟨how, ⟨hkey, hhow, hfile⟩, ?_⟩
        show (if file.isEmpty then _ else _) = _
        rw [if_neg fun h => hfile (String.isEmpty_iff.mp h)]
    · rw [hf]
      exact .inr ⟨fun how h => hother how h.2.1, f, rfl⟩
  · rw [hf]
    exact .inr ⟨fun _ h => h.1 hkey, f, rfl⟩

end DeviceCli
