/-!
# Maps with ordered keys

A `Keyed α` maps strings to values and lists its entries by ascending key, each key once. So two
maps with the same entries are equal, and what is done entry by entry is done in key order.

* `insert` puts a value under a key, in place of an earlier one;
* `get?` reads a value, and `get?_insert` ties the two together;
* `ofList` inserts the pairs of a list one after the other, so the last of equal keys counts.
-/

namespace DeviceCli

/-- The keys of a list of entries ascend. -/
def Ascending {α : Type} (entries : List (String × α)) : Prop :=
  entries.Pairwise fun a b => a.1 < b.1

/-- A map from strings, as its entries by ascending key. -/
structure Keyed (α : Type) where
  entries : List (String × α)
  ascending : Ascending entries

namespace Keyed

variable {α : Type}

/-- The map without entries. -/
def empty : Keyed α := ⟨[], List.Pairwise.nil⟩

instance : Inhabited (Keyed α) := ⟨empty⟩

instance [DecidableEq α] : DecidableEq (Keyed α) := fun a b =>
  decidable_of_iff (a.entries = b.entries) (by cases a; cases b; simp)

/-! ## 1. Insertion -/

/-- Puts a value under a key into a list of entries. -/
def put (key : String) (value : α) : List (String × α) → List (String × α)
  | [] => [(key, value)]
  | (k, v) :: rest =>
    if key < k then (key, value) :: (k, v) :: rest
    else if key = k then (key, value) :: rest
    else (k, v) :: put key value rest

theorem mem_put {key : String} {value : α} {entries : List (String × α)} {e : String × α}
    (h : e ∈ put key value entries) : e = (key, value) ∨ e ∈ entries := by
  induction entries with
  | nil => simpa [put] using h
  | cons first rest ih =>
    obtain ⟨k, v⟩ := first
    simp only [put] at h
    split at h
    · simpa using h
    · split at h
      · rcases List.mem_cons.mp h with h | h
        · exact .inl h
        · exact .inr (List.mem_cons_of_mem _ h)
      · rcases List.mem_cons.mp h with h | h
        · exact .inr (h ▸ List.mem_cons_self)
        · rcases ih h with h | h
          · exact .inl h
          · exact .inr (List.mem_cons_of_mem _ h)

theorem ascending_put {key : String} {value : α} {entries : List (String × α)}
    (h : Ascending entries) : Ascending (put key value entries) := by
  induction entries with
  | nil => exact List.pairwise_singleton _ _
  | cons first rest ih =>
    obtain ⟨k, v⟩ := first
    have ⟨hk, hrest⟩ := List.pairwise_cons.mp h
    simp only [put]
    split
    · next hlt =>
      refine List.pairwise_cons.mpr ⟨fun e he => ?_, h⟩
      rcases List.mem_cons.mp he with rfl | he
      · exact hlt
      · exact String.lt_trans hlt (hk e he)
    · next hnlt =>
      split
      · next heq =>
        subst heq
        exact List.pairwise_cons.mpr ⟨hk, hrest⟩
      · next hne =>
        refine List.pairwise_cons.mpr ⟨fun e he => ?_, ih hrest⟩
        rcases mem_put he with rfl | he
        · exact Decidable.by_contra fun hn =>
            hne (String.le_antisymm (String.not_lt.mp hn) (String.not_lt.mp hnlt))
        · exact hk e he

/-- The map with a value under a key, in place of an earlier one. -/
def insert (m : Keyed α) (key : String) (value : α) : Keyed α :=
  ⟨put key value m.entries, ascending_put m.ascending⟩

/-- The map of the pairs of a list; of equal keys the last counts. -/
def ofList (pairs : List (String × α)) : Keyed α :=
  pairs.foldl (fun m p => m.insert p.1 p.2) empty

/-! ## 2. Reading -/

/-- The value under a key. -/
def get? (m : Keyed α) (key : String) : Option α := m.entries.lookup key

/-- Whether there is a value under a key. -/
def contains (m : Keyed α) (key : String) : Bool := (m.get? key).isSome

/-- The keys, ascending. -/
def keys (m : Keyed α) : List String := m.entries.map (·.1)

/-- How many entries there are. -/
def size (m : Keyed α) : Nat := m.entries.length

/-- Whether there are no entries. -/
def isEmpty (m : Keyed α) : Bool := m.entries.isEmpty

theorem lookup_put (key key' : String) (value : α) (entries : List (String × α)) :
    (put key value entries).lookup key' = if key' = key then some value else entries.lookup key' := by
  induction entries with
  | nil => by_cases h : key' = key <;> simp [put, List.lookup_cons, h, beq_eq_false_iff_ne.mpr]
  | cons first rest ih =>
    obtain ⟨k, v⟩ := first
    simp only [put]
    split
    · by_cases h : key' = key <;> simp [List.lookup_cons, h, beq_eq_false_iff_ne.mpr]
    · split
      · next heq =>
        subst heq
        by_cases h : key' = key <;> simp [List.lookup_cons, h, beq_eq_false_iff_ne.mpr]
      · next hne =>
        by_cases h : key' = k
        · subst h
          have : key' ≠ key := fun e => hne e.symm
          simp [this]
        · simp [List.lookup_cons, beq_eq_false_iff_ne.mpr h, ih]

@[simp] theorem get?_insert (m : Keyed α) (key key' : String) (value : α) :
    (m.insert key value).get? key' = if key' = key then some value else m.get? key' :=
  lookup_put key key' value m.entries

@[simp] theorem get?_empty (key : String) : (empty : Keyed α).get? key = none := rfl

/-! ## 3. Changing all values -/

/-- The map with a function applied to each value. -/
def map {β : Type} (f : α → β) (m : Keyed α) : Keyed β :=
  ⟨m.entries.map fun e => (e.1, f e.2), by
    simpa [Ascending, List.pairwise_map] using m.ascending⟩

end Keyed

end DeviceCli
