import Mathlib.Data.List.Basic

/-!
# Decimal numbers as text

An unsigned integer type reads a number from digits after an optional plus sign, and stops at
the first character that is no digit and at the first step that leaves its range. Leading
zeros count for nothing. What is accepted is what stands for a number in range.
-/

namespace Rtun.Decimal

/-- `char::to_digit`, for decimals. -/
def digit (char : Char) : Option Nat :=
  if 48 ≤ char.toNat ∧ char.toNat ≤ 57 then some (char.toNat - 48) else none

/-- Read digits on top of the number so far, with checked arithmetic below the
bound. -/
def digits (bound : Nat) : Nat → List Char → Option Nat
  | number, [] => some number
  | number, char :: rest =>
      match digit char with
      | none => none
      | some value =>
          if number * 10 + value < bound then digits bound (number * 10 + value) rest else none

/-- What follows the optional sign. -/
def unsigned : List Char → List Char
  | '+' :: rest => rest
  | text => text

/-- `from_str` of an unsigned type with this many values. -/
def parse (bound : Nat) (text : List Char) : Option Nat :=
  match unsigned text with
  | [] => none
  | char :: rest => digits bound 0 (char :: rest)

/-- The number that the digits stand for, on top of another. -/
inductive Reads : Nat → List Char → Nat → Prop where
  | nil (number : Nat) : Reads number [] number
  | cons (number value result : Nat) (char : Char) (rest : List Char)
      (isDigit : digit char = some value) (more : Reads (number * 10 + value) rest result) :
      Reads number (char :: rest) result

/-- A text of at least one digit, and its number. -/
def Numeral (text : List Char) (number : Nat) : Prop := text ≠ [] ∧ Reads 0 text number

/-- More digits do not make the number smaller. -/
theorem Reads.le {number result : Nat} {text : List Char} (reads : Reads number text result) :
    number ≤ result := by
  induction reads with
  | nil => exact Nat.le_refl _
  | cons number value result char rest isDigit more inductionHypothesis => omega

/-- Digits are read as one number at most. -/
theorem Reads.unique {number result other : Nat} {text : List Char} (reads : Reads number text result)
    (also : Reads number text other) : result = other := by
  induction reads generalizing other with
  | nil =>
    cases also
    rfl
  | cons number value result char rest isDigit more inductionHypothesis =>
    cases also with
    | cons _ same _ _ _ isSame others =>
      obtain rfl : value = same := Option.some.inj (isDigit.symm.trans isSame)
      exact inductionHypothesis others

/-- The digits of two numerals, one after the other. -/
theorem Reads.append {number middle result : Nat} {first second : List Char}
    (reads : Reads number first middle) (more : Reads middle second result) :
    Reads number (first ++ second) result := by
  induction reads with
  | nil => exact more
  | cons number value _ char rest isDigit _ inductionHypothesis =>
    exact .cons number value _ char _ isDigit (inductionHypothesis more)

/-- Every character that is read is a digit. -/
theorem Reads.digits {number result : Nat} {text : List Char} (reads : Reads number text result)
    (char : Char) (member : char ∈ text) : (digit char).isSome = true := by
  induction reads with
  | nil => cases member
  | cons number value result first rest isDigit more inductionHypothesis =>
    rcases List.mem_cons.mp member with rfl | later
    · rw [isDigit]
      rfl
    · exact inductionHypothesis later

/-- Checked reading succeeds exactly on digits of a number in range. The
intermediate numbers are not larger than the last one, so no check fails
earlier. -/
theorem digits_some_iff (bound number result : Nat) (text : List Char) (inRange : number < bound) :
    digits bound number text = some result ↔ Reads number text result ∧ result < bound := by
  induction text generalizing number with
  | nil =>
    constructor
    · rintro ⟨⟩
      exact ⟨.nil _, inRange⟩
    · rintro ⟨reads, _⟩
      cases reads
      rfl
  | cons char rest inductionHypothesis =>
    rw [digits]
    split
    · rename_i notDigit
      simp only [reduceCtorEq, false_iff, not_and]
      intro reads
      cases reads with
      | cons _ value _ _ _ isDigit =>
        rw [notDigit] at isDigit
        cases isDigit
    · rename_i value isDigit
      have reads_iff : Reads number (char :: rest) result ↔ Reads (number * 10 + value) rest result := by
        constructor
        · intro reads
          cases reads with
          | cons _ same _ _ _ isSame more =>
            obtain rfl : value = same := Option.some.inj (isDigit.symm.trans isSame)
            exact more
        · exact .cons number value result char rest isDigit
      rw [reads_iff]
      split
      · rename_i fits
        exact inductionHypothesis _ fits
      · rename_i overflows
        simp only [reduceCtorEq, false_iff, not_and]
        exact fun reads small => overflows (Nat.lt_of_le_of_lt reads.le small)

/-- What is accepted: a numeral in range, after an optional plus sign. -/
theorem parse_some_iff (bound number : Nat) (positive : 0 < bound) (text : List Char) :
    parse bound text = some number ↔
      ∃ numeral, (text = numeral ∨ text = '+' :: numeral) ∧ Numeral numeral number ∧ number < bound := by
  have accepted (numeral : List Char) (front : unsigned text = numeral) :
      parse bound text = some number ↔ Numeral numeral number ∧ number < bound := by
    rw [parse, front, Numeral]
    cases numeral with
    | nil => simp
    | cons char rest =>
      dsimp only
      rw [digits_some_iff bound 0 number _ positive]
      simp
  have noSign (numeral : List Char) : ¬ Numeral ('+' :: numeral) number := by
    rintro ⟨_, reads⟩
    exact absurd (reads.digits '+' List.mem_cons_self) (by decide)
  rw [accepted _ rfl]
  unfold unsigned
  split
  · rename_i rest
    constructor
    · intro holds
      exact ⟨rest, Or.inr rfl, holds⟩
    · rintro ⟨numeral, rfl | same, holds⟩
      · exact absurd holds.1 (noSign rest)
      · obtain rfl := (List.cons.inj same).2
        exact holds
  · rename_i front
    constructor
    · intro holds
      exact ⟨text, Or.inl rfl, holds⟩
    · rintro ⟨numeral, rfl | rfl, holds⟩
      · exact holds
      · exact absurd rfl (front numeral)

/-- A number is written as a numeral of it. -/
theorem numeral_toDigits (number : Nat) : Numeral (Nat.toDigits 10 number) number := by
  have single : ∀ value < 10, digit (Nat.digitChar value) = some value := by decide
  have last (number value : Nat) (small : value < 10) :
      Reads number [Nat.digitChar value] (number * 10 + value) :=
    .cons number value _ _ [] (single value small) (.nil _)
  refine ⟨Nat.toDigits_ne_nil, ?_⟩
  induction number using Nat.strongRecOn with
  | ind number inductionHypothesis =>
    rw [Nat.toDigits_eq_if (by decide)]
    split
    · rename_i small
      simpa using last 0 number small
    · rename_i large
      have before := inductionHypothesis (number / 10) (by omega)
      have whole := before.append (last (number / 10) (number % 10) (Nat.mod_lt _ (by decide)))
      rwa [Nat.div_add_mod' number 10] at whole

end Rtun.Decimal
