import DeviceCli.Keyed

/-!
# What maps hold

A map with ordered keys is known by what can be read from it, and a list of pairs by its last pair
of each key.

* `mem_entries_iff`: the entries are what can be read;
* `ext_get?`: maps from which the same can be read are equal;
* `get?_ofList`: in the map of a list, the last of equal keys counts;
* `ofList_entries`: a map is that of its own entries.
-/

namespace DeviceCli.Keyed

variable {α : Type}

/-! ## 1. Reading -/

/-- The entries of a map are what can be read from it. -/
theorem mem_entries_iff (m : Keyed α) {key : String} {value : α} :
    (key, value) ∈ m.entries ↔ m.get? key = some value := by
  rw [get?, List.lookup_eq_some_iff]
  constructor
  · intro h
    obtain ⟨front, back, e⟩ := List.append_of_mem h
    refine ⟨front, back, e, fun p hp => ?_⟩
    have hasc := m.ascending
    rw [Ascending, e, List.pairwise_append] at hasc
    have hlt : p.1 < key := hasc.2.2 p hp (key, value) List.mem_cons_self
    simpa using fun e : key = p.1 => String.lt_irrefl _ (e ▸ hlt)
  · rintro ⟨front, back, e, -⟩
    exact e ▸ List.mem_append_right front List.mem_cons_self

theorem contains_iff (m : Keyed α) {key : String} :
    m.contains key = true ↔ ∃ value, m.get? key = some value := by
  rw [contains, Option.isSome_iff_exists]

theorem empty_eq_of_isEmpty {m : Keyed α} (h : m.isEmpty = true) : empty = m := by
  obtain ⟨entries, ascending⟩ := m
  obtain rfl : entries = [] := by simpa [isEmpty] using h
  rfl

/-- **Maps in which the same is read under each name are equal.** -/
theorem ext_get? {m m' : Keyed α} (h : ∀ name, m.get? name = m'.get? name) : m = m' := by
  have hmem : ∀ e : String × α, e ∈ m.entries ↔ e ∈ m'.entries := by
    rintro ⟨name, value⟩
    rw [mem_entries_iff, mem_entries_iff, h name]
  have hnodup : ∀ m : Keyed α, m.entries.Nodup := fun m => by
    refine List.Pairwise.imp (fun {a b} hlt => ?_) m.ascending
    rintro rfl
    exact String.lt_irrefl _ hlt
  have hperm : m.entries.Perm m'.entries :=
    (List.perm_ext_iff_of_nodup (hnodup m) (hnodup m')).mpr fun e => hmem e
  have hentries : m.entries = m'.entries :=
    hperm.eq_of_pairwise (fun a b _ _ hab hba => absurd (String.lt_trans hab hba)
      (String.lt_irrefl _)) m.ascending m'.ascending
  cases m
  cases m'
  cases hentries
  rfl

/-! ## 2. Lists of pairs -/

theorem get?_foldl_insert (pairs : List (String × α)) (m : Keyed α) (name : String) :
    (pairs.foldl (fun m p => m.insert p.1 p.2) m).get? name =
      (pairs.reverse.lookup name).or (m.get? name) := by
  induction pairs generalizing m with
  | nil => rfl
  | cons p pairs ih =>
    obtain ⟨key, value⟩ := p
    rw [List.foldl_cons, ih, List.reverse_cons, List.lookup_append, Option.or_assoc]
    congr 1
    rw [get?_insert]
    by_cases h : name = key
    · simp [h]
    · have hne : (name == key) = false := beq_eq_false_iff_ne.mpr h
      simp [List.lookup_cons, h, hne]

/-- **Of equal names the last counts.** -/
theorem get?_ofList (pairs : List (String × α)) (name : String) :
    (ofList pairs).get? name = pairs.reverse.lookup name := by
  rw [ofList, get?_foldl_insert, get?_empty, Option.or_none]

/-- A list whose last pair of each name is what a map has under it says that map. -/
theorem ofList_eq_of_lookup {pairs : List (String × α)} {m : Keyed α}
    (h : ∀ name, m.get? name = pairs.reverse.lookup name) : ofList pairs = m :=
  ext_get? fun name => (get?_ofList pairs name).trans (h name).symm

/-- **A map is that of its entries.** -/
theorem ofList_entries (m : Keyed α) : ofList m.entries = m := by
  have hsome : ∀ {name value}, m.entries.reverse.lookup name = some value →
      m.get? name = some value := by
    intro name value h
    obtain ⟨front, back, hreverse, -⟩ := List.lookup_eq_some_iff.mp h
    rw [← mem_entries_iff, ← List.mem_reverse, hreverse]
    exact List.mem_append_right front List.mem_cons_self
  refine ofList_eq_of_lookup fun name => ?_
  cases hlast : m.entries.reverse.lookup name with
  | some value => exact hsome hlast
  | none =>
    refine Option.eq_none_iff_forall_not_mem.mpr fun value hvalue => ?_
    have hmem : (name, value) ∈ m.entries.reverse :=
      List.mem_reverse.mpr (m.mem_entries_iff.mpr hvalue)
    simpa using List.lookup_eq_none_iff.mp hlast _ hmem

/-- Each entry of the map of a list is one of the list. -/
theorem mem_of_mem_ofList {pairs : List (String × α)} {e : String × α}
    (h : e ∈ (ofList pairs).entries) : e ∈ pairs := by
  obtain ⟨key, value⟩ := e
  rw [mem_entries_iff, get?_ofList, List.lookup_eq_some_iff] at h
  obtain ⟨front, back, hreverse, -⟩ := h
  exact List.mem_reverse.mp (hreverse ▸ List.mem_append_right front List.mem_cons_self)

end DeviceCli.Keyed
