import Mathlib.Logic.Basic

/-!
# Failures with context

A failure is a chain of messages, the outermost context first, as an application
error carries it. Wrapping a computation in a context changes only the message.
-/

namespace Rtun

universe u v

/-- A chain of messages: the last context added first, the cause last. -/
structure Failure where
  chain : List String
deriving DecidableEq

/-- A computation that returns a value or a failure. -/
abbrev Fallible (α : Type u) : Type u := Except Failure α

namespace Failure

/-- A failure with one message. -/
def message (text : String) : Failure := { chain := [text] }

/-- Put a message in front of a failure. -/
def within (text : String) (failure : Failure) : Failure := { chain := text :: failure.chain }

/-- The whole chain on one line, as `{:#}` prints it. -/
def display (failure : Failure) : String := ": ".intercalate failure.chain

end Failure

namespace Fallible

variable {α : Type u} {γ : Type v}

/-- `with_context`: a failure is reported inside the given context. -/
def withContext (attempt : Fallible α) (text : String) : Fallible α :=
  attempt.mapError (Failure.within text)

/-- Context changes nothing of a success. -/
@[simp] theorem withContext_ok (value : α) (text : String) :
    withContext (.ok value : Fallible α) text = .ok value := rfl

/-- It is put in front of a failure, as the outermost text of the message. -/
@[simp] theorem withContext_error (failure : Failure) (text : String) :
    withContext (.error failure : Fallible α) text = .error (failure.within text) := rfl

/-- A context neither hides a failure nor invents one. -/
@[simp] theorem withContext_ok_iff (attempt : Fallible α) (text : String) (value : α) :
    withContext attempt text = .ok value ↔ attempt = .ok value := by
  cases attempt <;> simp

/-- A computation fails exactly when it does not succeed. -/
theorem failed_iff (attempt : Fallible α) :
    (∃ failure, attempt = .error failure) ↔ ¬ ∃ value, attempt = .ok value := by
  cases attempt <;> simp

/-- A sequence succeeds exactly when both of its parts do. -/
theorem bind_ok_iff {β : Type u} (attempt : Fallible α) (next : α → Fallible β) (value : β) :
    (attempt >>= next) = .ok value ↔ ∃ first, attempt = .ok first ∧ next first = .ok value := by
  cases attempt <;> simp [bind, Except.bind]

/-- A check followed by the rest succeeds exactly when the check and the rest
do. -/
theorem check_bind_ok_iff {β : Type} (check : Fallible Unit) (next : Fallible β) (value : β) :
    (check >>= fun _ => next) = .ok value ↔ check = .ok () ∧ next = .ok value := by
  cases check <;> simp [bind, Except.bind]

/-- Checking every member of a list succeeds exactly when each check does. -/
theorem forM_ok_iff (check : γ → Fallible Unit) (values : List γ) :
    forM values check = .ok () ↔ ∀ value ∈ values, check value = .ok () := by
  induction values with
  | nil => simp [pure, Except.pure]
  | cons first rest inductionHypothesis =>
    simp only [List.forM_cons, check_bind_ok_iff, inductionHypothesis, List.forall_mem_cons]

end Fallible

end Rtun
