import Mathlib.Data.List.Nodup

/-!
# Lists as ordered maps

A list whose elements have distinct keys is a finite map that also remembers an order.
An element is looked up by its key, and changed or removed there; what is left when a
key is removed is what an edit under that key must not disturb.
-/

namespace Rtun.KeyedList

universe u v
variable {α : Type u} {κ : Type v} [DecidableEq κ] (key : α → κ)

/-- The first element with the key. -/
def lookup (named : κ) (elements : List α) : Option α :=
  elements.find? (fun element => decide (key element = named))

/-- Change what has the key. -/
def alter (named : κ) (change : α → α) (elements : List α) : List α :=
  elements.map (fun element => if key element = named then change element else element)

/-- Everything but what has the key, in its order. -/
def remove (named : κ) (elements : List α) : List α :=
  elements.filter (fun element => decide (key element ≠ named))

/-- Nothing is found exactly when no element has the key. In this form the absence
of a key is handed to the lemmas about lists. -/
theorem lookup_none_iff (named : κ) (elements : List α) :
    lookup key named elements = none ↔ ∀ element ∈ elements, key element ≠ named := by
  simp [lookup]

/-- With distinct keys, an element is found under its key exactly when it is in
the list. -/
theorem lookup_some_iff (elements : List α) (distinct : (elements.map key).Nodup) (named : κ)
    (element : α) :
    lookup key named elements = some element ↔ element ∈ elements ∧ key element = named := by
  constructor
  · intro found
    exact ⟨List.mem_of_find?_eq_some found, by simpa using List.find?_some found⟩
  · rintro ⟨member, rfl⟩
    cases found : lookup key (key element) elements with
    | none => exact absurd rfl ((lookup_none_iff key _ elements).mp found element member)
    | some other =>
      have same : key other = key element := by simpa using List.find?_some found
      have listed : other ∈ elements := List.mem_of_find?_eq_some found
      rw [List.inj_on_of_nodup_map distinct listed member same]

/-- An element that is added is found under its key, if nothing was before.
Otherwise the older element would be found in its place. -/
theorem lookup_append_self (elements : List α) (added : α)
    (absent : lookup key (key added) elements = none) :
    lookup key (key added) (elements ++ [added]) = some added := by
  rw [lookup, List.find?_append, ← lookup, absent]
  simp

/-- What is found after a change is the change of what was found. In particular
nothing is found afterwards where nothing was before. -/
theorem lookup_alter (named : κ) (change : α → α) (kept : ∀ element, key (change element) = key element)
    (elements : List α) :
    lookup key named (alter key named change elements) = (lookup key named elements).map change := by
  induction elements with
  | nil => rfl
  | cons element rest inductionHypothesis =>
    by_cases same : key element = named
    · simp [lookup, alter, same, kept]
    · simpa [lookup, alter, same] using inductionHypothesis

/-- Nothing is found under a key that was removed. -/
theorem lookup_remove (named : κ) (elements : List α) :
    lookup key named (remove key named elements) = none := by
  simp [lookup, remove]

/-- Changing under a key that no element has changes nothing, so a change that is
refused may be read as one that was made. -/
theorem alter_of_absent (named : κ) (change : α → α) (elements : List α)
    (absent : lookup key named elements = none) : alter key named change elements = elements := by
  rw [lookup_none_iff] at absent
  exact (List.map_congr_left (fun element member => if_neg (absent element member))).trans
    (List.map_id' elements)

/-- Adding under a key disturbs nothing else: without the elements of this key the
two lists are the same. -/
theorem remove_append (elements : List α) (added : α) :
    remove key (key added) (elements ++ [added]) = remove key (key added) elements := by
  simp [remove]

/-- A change of the element that was added last changes nothing else, since no
other element has its key. -/
theorem alter_append (elements : List α) (added : α) (change : α → α)
    (absent : lookup key (key added) elements = none) :
    alter key (key added) change (elements ++ [added]) = elements ++ [change added] := by
  have others := alter_of_absent key (key added) change elements absent
  rw [alter] at others
  rw [alter, List.map_append, others]
  simp

/-- Removing the first of distinct elements leaves the others, in their order and
all of them. -/
theorem remove_cons (element : α) (rest : List α) (distinct : ((element :: rest).map key).Nodup) :
    remove key (key element) (element :: rest) = rest := by
  have differs := (List.nodup_cons.mp distinct).1
  rw [remove, List.filter_cons_of_neg (by simp), List.filter_eq_self]
  intro other member
  have apart : key other ≠ key element := fun same => differs (same ▸ List.mem_map_of_mem member)
  simpa using apart

/-- Neither does a change. -/
theorem remove_alter (named : κ) (change : α → α) (kept : ∀ element, key (change element) = key element)
    (elements : List α) :
    remove key named (alter key named change elements) = remove key named elements := by
  induction elements with
  | nil => rfl
  | cons element rest inductionHypothesis =>
    by_cases same : key element = named
    · simpa [remove, alter, same, kept] using inductionHypothesis
    · simpa [remove, alter, same] using inductionHypothesis

/-- An alteration that keeps keys keeps the list of keys, with its order. So it
keeps keys distinct too. -/
theorem keys_alter (named : κ) (change : α → α) (kept : ∀ element, key (change element) = key element)
    (elements : List α) : (alter key named change elements).map key = elements.map key := by
  simp only [alter, List.map_map, List.map_inj_left, Function.comp_apply]
  intro element _
  split
  · exact kept element
  · rfl

/-- A key that is added to distinct ones keeps them distinct exactly when it is
new. -/
theorem nodup_append_iff (elements : List α) (added : α) (distinct : (elements.map key).Nodup) :
    ((elements ++ [added]).map key).Nodup ↔ lookup key (key added) elements = none := by
  rw [lookup_none_iff, List.map_append, List.nodup_append]
  simp [distinct]

/-- Distinct keys stay distinct when one of them is removed, since what is left is
a part of the list. -/
theorem nodup_remove (named : κ) (elements : List α) (distinct : (elements.map key).Nodup) :
    ((remove key named elements).map key).Nodup :=
  distinct.sublist (List.filter_sublist.map key)

/-- After a change in a list of good elements, all are good exactly when the
changed one is. -/
theorem forall_alter_iff (named : κ) (change : α → α) (good : α → Prop) (elements : List α)
    (distinct : (elements.map key).Nodup) (all : ∀ element ∈ elements, good element) :
    (∀ element ∈ alter key named change elements, good element) ↔
      ∀ element, lookup key named elements = some element → good (change element) := by
  simp only [lookup_some_iff key elements distinct, alter, List.forall_mem_map]
  constructor
  · rintro after element ⟨member, rfl⟩
    simpa using after element member
  · intro changed element member
    split
    · rename_i same
      exact changed element ⟨member, same⟩
    · exact all element member

/-- What holds of every element holds of every element of a longer list exactly if
it holds of the one that was added. -/
theorem forall_append_iff (good : α → Prop) (elements : List α) (added : α)
    (all : ∀ element ∈ elements, good element) :
    (∀ element ∈ elements ++ [added], good element) ↔ good added := by
  simp only [List.forall_mem_append, List.forall_mem_singleton]
  exact and_iff_right all

/-- What holds of every element holds of those that are left. A removal can make
no element worse. -/
theorem forall_remove (named : κ) (good : α → Prop) (elements : List α)
    (all : ∀ element ∈ elements, good element) :
    ∀ element ∈ remove key named elements, good element :=
  fun element member => all element (List.mem_filter.mp member).1

/-- An edit of one element: it is added at the end, changed where it is, or
removed. -/
inductive Edit (α : Type u) (κ : Type v) where
  | add (element : α)
  | alter (named : κ) (change : α → α)
  | remove (named : κ)

namespace Edit

/-- The key that the edit is about. -/
def named : Edit α κ → κ
  | .add element => key element
  | .alter named _ => named
  | .remove named => named

/-- An element must not be there to be added, and must be there for everything
else. -/
def Possible (elements : List α) : Edit α κ → Prop
  | .add element => lookup key (key element) elements = none
  | .alter named _ | .remove named => (lookup key named elements).isSome = true

def run (elements : List α) : Edit α κ → List α
  | .add element => elements ++ [element]
  | .alter named change => KeyedList.alter key named change elements
  | .remove named => KeyedList.remove key named elements

/-- What the edit makes of what was found under its key. -/
def result (found : Option α) : Edit α κ → Option α
  | .add element => some element
  | .alter _ change => found.map change
  | .remove _ => none

/-- A change does not touch the key. -/
def KeepsKey : Edit α κ → Prop
  | .alter _ change => ∀ element, key (change element) = key element
  | .add _ | .remove _ => True

variable {key} (edit : Edit α κ) (elements : List α)

/-- Under its key an edit leaves its result. Together with what it leaves
elsewhere, this says all of the edited list. -/
theorem lookup_run (keeps : edit.KeepsKey key) (possible : edit.Possible key elements) :
    lookup key (edit.named key) (edit.run key elements) =
      edit.result (lookup key (edit.named key) elements) := by
  cases edit with
  | add element => exact lookup_append_self key elements element possible
  | alter named change => exact lookup_alter key named change keeps elements
  | remove named => exact lookup_remove key named elements

/-- The result has the key that the edit is about: an edit moves no element from
one key to another. -/
theorem key_of_result (keeps : edit.KeepsKey key) (distinct : (elements.map key).Nodup) (element : α)
    (left : edit.result (lookup key (edit.named key) elements) = some element) :
    key element = edit.named key := by
  cases edit with
  | add added =>
    cases left
    rfl
  | alter named change =>
    obtain ⟨before, found, rfl⟩ := Option.map_eq_some_iff.mp left
    exact (keeps before).trans ((lookup_some_iff key elements distinct named before).mp found).2
  | remove named => cases left

/-- Everything under other keys stays, in its order. This is the frame of the
three edits. -/
theorem remove_run (keeps : edit.KeepsKey key) :
    KeyedList.remove key (edit.named key) (edit.run key elements) =
      KeyedList.remove key (edit.named key) elements := by
  cases edit with
  | add element => exact remove_append key elements element
  | alter named change => exact remove_alter key named change keeps elements
  | remove named =>
    simp only [Edit.named, run, KeyedList.remove, List.filter_filter]
    refine List.filter_congr (fun element _ => ?_)
    by_cases same : key element = named <;> simp [same]

/-- What is found under another key is what was found there before, as the frame
says of one key at a time. -/
theorem lookup_run_other (keeps : edit.KeepsKey key) (other : κ) (differs : other ≠ edit.named key) :
    lookup key other (edit.run key elements) = lookup key other elements := by
  have inOthers (list : List α) :
      lookup key other (KeyedList.remove key (edit.named key) list) = lookup key other list := by
    rw [lookup, KeyedList.remove, List.find?_filter]
    congr 1
    funext element
    by_cases same : key element = other <;> simp [same, differs]
  rw [← inOthers, remove_run edit elements keeps, inOthers]

/-- Distinct keys stay distinct under every edit that is possible. For an addition
this is what possible means. -/
theorem nodup_run (keeps : edit.KeepsKey key) (possible : edit.Possible key elements)
    (distinct : (elements.map key).Nodup) : ((edit.run key elements).map key).Nodup := by
  cases edit with
  | add element => exact (nodup_append_iff key elements element distinct).mpr possible
  | alter named change =>
    rw [run, keys_alter key named change keeps]
    exact distinct
  | remove named => exact nodup_remove key named elements distinct

/-- After an edit of a list of good elements, all are good exactly when its result
is. -/
theorem forall_run_iff (good : α → Prop) (distinct : (elements.map key).Nodup)
    (all : ∀ element ∈ elements, good element) :
    (∀ element ∈ edit.run key elements, good element) ↔
      ∀ element, edit.result (lookup key (edit.named key) elements) = some element → good element := by
  cases edit with
  | add element => simpa [result, run] using forall_append_iff good elements element all
  | alter named change =>
    simpa [result, run, Edit.named] using forall_alter_iff key named change good elements distinct all
  | remove named => simpa [result, run] using forall_remove key named good elements all

end Edit

end Rtun.KeyedList
