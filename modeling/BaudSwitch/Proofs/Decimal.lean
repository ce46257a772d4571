import Mathlib.Data.List.Basic
import Mathlib.Tactic.IntervalCases

/-!
# Numbers in base ten

The digits of a number are its only digit, or those of its tens and one more behind them.  So
only zero begins with a zero.
-/

namespace BaudSwitch.Decimal

/-- What holds of one digit, and is kept by one digit more, holds of all numbers. -/
theorem digits_induction {motive : Nat → List Char → Prop}
    (one : ∀ number, number < 10 → motive number [number.digitChar])
    (more : ∀ number, 10 ≤ number → motive (number / 10) (Nat.toDigits 10 (number / 10)) →
      motive number (Nat.toDigits 10 (number / 10) ++ [(number % 10).digitChar]))
    (number : Nat) : motive number (Nat.toDigits 10 number) := by
  induction number using Nat.strongRecOn with
  | ind number inductionHypothesis =>
      by_cases small : number < 10
      · rw [Nat.toDigits_of_lt_base small]
        exact one number small
      · have large : 10 ≤ number := Nat.le_of_not_lt small
        rw [Nat.toDigits_of_base_le (by decide) large]
        exact more number large (inductionHypothesis _ (by omega))

theorem digitChar_bounds {digit : Nat} (small : digit < 10) :
    '0' ≤ digit.digitChar ∧ digit.digitChar ≤ '9' := by
  interval_cases digit <;> decide

theorem bounds_of_mem_toDigits {character : Char} {number : Nat}
    (membership : character ∈ Nat.toDigits 10 number) : '0' ≤ character ∧ character ≤ '9' := by
  refine digits_induction
    (motive := fun _ digits => character ∈ digits → '0' ≤ character ∧ character ≤ '9')
    (fun digit small found => ?_) (fun number _ earlier found => ?_) number membership
  · rw [List.mem_singleton.mp found]
    exact digitChar_bounds small
  · rcases List.mem_append.mp found with before | last
    · exact earlier before
    · rw [List.mem_singleton.mp last]
      exact digitChar_bounds (Nat.mod_lt number (by decide))

theorem head?_toDigits_ne_zero {number : Nat} (positive : 0 < number) :
    (Nat.toDigits 10 number).head? ≠ some '0' := by
  refine digits_induction (motive := fun number digits => 0 < number → digits.head? ≠ some '0')
    (fun digit small positive begins => ?_) (fun number large earlier _ => ?_) number positive
  · have code := Nat.toNat_digitChar_of_lt_ten small
    rw [Option.some.inj begins] at code
    have zero : '0'.toNat = 48 := rfl
    omega
  · rw [List.head?_append_of_ne_nil _ Nat.toDigits_ne_nil]
    exact earlier (by omega)

end BaudSwitch.Decimal
