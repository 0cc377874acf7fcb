import Mathlib.Data.List.AList

/-!
# Hash maps as association lists with distinct keys

A hash map is modeled by an association list that carries the proof that its
keys are distinct. Iteration order is not modeled: no law below mentions it.
Lookup, insertion and removal are those of `AList`; `retain` is added here, with
the list of the values it drops, since dropping a value may have an effect.
-/

namespace Rtun

universe u v

/-- A finite map from keys to values. -/
abbrev Table (κ : Type u) (ν : Type v) : Type (max u v) := AList (fun _ : κ => ν)

namespace Table

variable {κ : Type u} {ν : Type v}

/-- Keep the entries that satisfy the test and drop the others. -/
def retain (keep : κ → ν → Bool) (table : Table κ ν) : Table κ ν :=
  ⟨table.entries.filter (fun entry => keep entry.1 entry.2),
    List.NodupKeys.sublist (List.filter_sublist) table.nodupKeys⟩

/-- The values whose entries fail the test. -/
def dropped (keep : κ → ν → Bool) (table : Table κ ν) : List ν :=
  (table.entries.filter (fun entry => !keep entry.1 entry.2)).map Sigma.snd

/-- The number of entries. -/
def size (table : Table κ ν) : Nat := table.entries.length

/-- When no entry is dropped, the table is as it was. -/
theorem retain_of_size (keep : κ → ν → Bool) (table : Table κ ν)
    (same : (retain keep table).size = table.size) : retain keep table = table := by
  apply AList.ext
  exact List.filter_eq_self.mpr (List.length_filter_eq_length_iff.mp same)

variable [DecidableEq κ]

/-- An entry is kept exactly when it was there and satisfies the test. -/
@[simp] theorem lookup_retain (keep : κ → ν → Bool) (table : Table κ ν) (key : κ) :
    (retain keep table).lookup key = (table.lookup key).filter (keep key) := by
  ext value
  rw [Option.filter_eq_some_iff, ← Option.mem_def, ← Option.mem_def, AList.mem_lookup_iff,
    AList.mem_lookup_iff]
  simp [retain]

/-- A value is dropped exactly when some key held it and fails the test. -/
theorem mem_dropped (keep : κ → ν → Bool) (table : Table κ ν) (value : ν) :
    value ∈ dropped keep table ↔
      ∃ key, table.lookup key = some value ∧ keep key value = false := by
  simp only [dropped, List.mem_map, List.mem_filter, Bool.not_eq_true', Sigma.exists]
  constructor
  · rintro ⟨key, held, ⟨member, fails⟩, rfl⟩
    exact ⟨key, AList.mem_lookup_iff.mpr member, fails⟩
  · rintro ⟨key, found, fails⟩
    exact ⟨key, value, ⟨AList.mem_lookup_iff.mp found, fails⟩, rfl⟩

/-- Looking a key up after an insertion. -/
theorem lookup_insert_cases (table : Table κ ν) (key other : κ) (value : ν) :
    (table.insert key value).lookup other = if other = key then some value else table.lookup other := by
  by_cases same : other = key
  · subst same
    simp
  · simp [same]

/-- Looking a key up after a removal. -/
theorem lookup_erase_cases (table : Table κ ν) (key other : κ) :
    (table.erase key).lookup other = if other = key then none else table.lookup other := by
  by_cases same : other = key
  · subst same
    simp
  · simp [same]

/-- Nothing is found in the empty table. -/
@[simp] theorem lookup_none (key : κ) : (∅ : Table κ ν).lookup key = none := AList.lookup_empty key

/-- A table in which nothing is found is empty. -/
theorem eq_empty_of_lookup (table : Table κ ν) (nothing : ∀ key, table.lookup key = none) :
    table = ∅ := by
  have noKeys : table.keys = [] := by
    apply List.eq_nil_iff_forall_not_mem.mpr
    intro key member
    have found : (table.lookup key).isSome := AList.lookup_isSome.mpr (AList.mem_keys.mpr member)
    simp [nothing key] at found
  apply AList.ext
  exact List.map_eq_nil_iff.mp noKeys

end Table

end Rtun
