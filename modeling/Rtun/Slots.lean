import Mathlib.Data.List.Basic

/-!
# Slots

A list of slots addressed by position, as a model of the tasks, calls or sockets
of a system: positions are handed out once and never move. A slot is overwritten
in place, and a new one is added at the end.
-/

namespace Rtun.Slots

universe u v
variable {α : Type u}

/-- What is found after overwriting a slot that exists. -/
theorem get_set_iff (slots : List α) (index other : Nat) (old value found : α)
    (present : slots[index]? = some old) :
    (slots.set index value)[other]? = some found ↔
      (other = index ∧ found = value) ∨ (other ≠ index ∧ slots[other]? = some found) := by
  have inside : index < slots.length := (List.getElem?_eq_some_iff.mp present).1
  by_cases same : other = index
  · subst same
    simp [inside, eq_comm]
  · simp [same, Ne.symm same]

/-- The overwritten slot holds the new value. -/
theorem get_set_self (slots : List α) (index : Nat) (old value : α)
    (present : slots[index]? = some old) : (slots.set index value)[index]? = some value :=
  (get_set_iff slots index index old value value present).mpr (Or.inl ⟨rfl, rfl⟩)

/-- What is found after adding a slot at the end. -/
theorem get_push_iff (slots : List α) (other : Nat) (value found : α) :
    (slots ++ [value])[other]? = some found ↔
      slots[other]? = some found ∨ (other = slots.length ∧ found = value) := by
  by_cases inside : other < slots.length
  · have different : other ≠ slots.length := by omega
    simp [List.getElem?_append_left inside, different]
  · have absent : slots[other]? = none := List.getElem?_eq_none (by omega)
    rw [List.getElem?_append_right (by omega), absent]
    by_cases last : other = slots.length
    · subst last
      simp [eq_comm]
    · have beyond : other - slots.length ≠ 0 := by omega
      simp [last, beyond]

/-- The slot at the end is the one that was added, and the others are those of
before. -/
theorem get_last_push (slots : List α) (value : α) :
    (slots ++ [value])[slots.length]? = some value ∧
      (slots ++ [value]).eraseIdx slots.length = slots := by
  constructor
  · exact (get_push_iff slots slots.length value value).mpr (Or.inr ⟨rfl, rfl⟩)
  · rw [List.eraseIdx_append_of_length_le (Nat.le_refl _), Nat.sub_self]
    exact List.append_nil slots

/-- A slot that is found lies below the end. -/
theorem lt_length_of_get (slots : List α) (index : Nat) (found : α)
    (present : slots[index]? = some found) : index < slots.length :=
  (List.getElem?_eq_some_iff.mp present).1

/-- What is in the slots is in one of them, or in the others. -/
theorem mem_iff_eraseIdx (slots : List α) (index : Nat) (value found : α)
    (present : slots[index]? = some value) :
    found ∈ slots ↔ found = value ∨ found ∈ slots.eraseIdx index := by
  rw [List.mem_eraseIdx_iff_getElem?, List.mem_iff_getElem?]
  constructor
  · rintro ⟨other, listed⟩
    by_cases same : other = index
    · subst same
      exact Or.inl (Option.some.inj (listed.symm.trans present))
    · exact Or.inr ⟨other, same, listed⟩
  · rintro (rfl | ⟨other, _, listed⟩)
    · exact ⟨index, present⟩
    · exact ⟨other, listed⟩

/-- Overwriting a slot by one that passes the test alike and shows the same leaves
what is shown of the slots that pass it. -/
theorem filter_map_set {β : Type v} (slots : List α) (index : Nat) (old value : α)
    (present : slots[index]? = some old) (test : α → Bool) (shown : α → β)
    (sameTest : test value = test old) (same : shown value = shown old) :
    ((slots.set index value).filter test).map shown = (slots.filter test).map shown := by
  induction slots generalizing index with
  | nil => rfl
  | cons slot rest inductionHypothesis =>
    cases index with
    | zero =>
      have isFirst : slot = old := Option.some.inj present
      subst isFirst
      by_cases passes : test slot = true <;> simp [passes, sameTest, same]
    | succ index =>
      have later := inductionHypothesis index present
      by_cases passes : test slot = true <;> simp [passes, later]

/-- Among slots with distinct marks, one has the mark of a given one. -/
theorem filter_mark {κ : Type v} [DecidableEq κ] (mark : α → κ) (slots : List α)
    (distinct : (slots.map mark).Nodup) (slot : α) (member : slot ∈ slots) :
    slots.filter (fun other => mark other == mark slot) = [slot] := by
  induction slots with
  | nil => cases member
  | cons first rest inductionHypothesis =>
    obtain ⟨differs, others⟩ := List.nodup_cons.mp distinct
    rcases List.mem_cons.mp member with rfl | later
    · have none : rest.filter (fun other => mark other == mark slot) = [] := by
        apply List.filter_eq_nil_iff.mpr
        intro other listed same
        exact differs (beq_iff_eq.mp same ▸ List.mem_map_of_mem listed)
      rw [List.filter_cons_of_pos (by simp), none]
    · have apart : mark first ≠ mark slot := by
        intro same
        exact differs (same ▸ List.mem_map_of_mem later)
      rw [List.filter_cons_of_neg (by simpa using apart)]
      exact inductionHypothesis others later

end Rtun.Slots
