import Mathlib.Data.Nat.Basic

/-!
# Delays that double up to a ceiling

The n-th delay is the start, doubled n times and cut off at the ceiling. The sum of the
first n delays is the least time that n retries take.
-/

namespace Rtun.Backoff

/-- The n-th delay. -/
def ladder (start ceiling : Nat) : Nat → Nat
  | 0 => start
  | count + 1 => min (ladder start ceiling count * 2) ceiling

/-- The first n delays together. -/
def total (start ceiling : Nat) : Nat → Nat
  | 0 => 0
  | count + 1 => total start ceiling count + ladder start ceiling count

variable {start ceiling : Nat}

/-- The closed form of the ladder. -/
theorem ladder_eq (below : start ≤ ceiling) (count : Nat) :
    ladder start ceiling count = min (start * Nat.pow 2 count) ceiling := by
  induction count with
  | zero =>
    rw [ladder, Nat.pow_eq, Nat.pow_zero, Nat.mul_one]
    exact (Nat.min_eq_left below).symm
  | succ count inductionHypothesis =>
    have doubled : start * Nat.pow 2 (count + 1) = start * Nat.pow 2 count * 2 := by
      rw [Nat.mul_assoc]
      rfl
    rw [ladder, inductionHypothesis, doubled]
    omega

/-- From the ceiling on every delay is the ceiling: doubling it and cutting it off
again gives the same. -/
theorem ladder_of_reached (count more : Nat) (reached : ladder start ceiling count = ceiling) :
    ladder start ceiling (count + more) = ceiling := by
  induction more with
  | zero => exact reached
  | succ more inductionHypothesis =>
    rw [← Nat.add_assoc, ladder, inductionHypothesis]
    omega

/-- So the retries are evenly spaced from then on, and the time that they take
grows by the ceiling with each of them. -/
theorem total_of_reached (count more : Nat) (reached : ladder start ceiling count = ceiling) :
    total start ceiling (count + more) = total start ceiling count + more * ceiling := by
  induction more with
  | zero => simp
  | succ more inductionHypothesis =>
    rw [← Nat.add_assoc, total, inductionHypothesis, ladder_of_reached count more reached,
      Nat.succ_mul, Nat.add_assoc]

end Rtun.Backoff
