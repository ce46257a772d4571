import Mathlib.Data.Int.Log
import Mathlib.Data.Rat.Floor
import Mathlib.Tactic.LinearCombination
import Mathlib.Tactic.Linarith
import Mathlib.Tactic.NormNum
import Mathlib.Tactic.Positivity

/-!
# Rounding

A number is rounded to a nearest integer, and to the even one where two are equally near.  In
double precision it is rounded like this to a multiple of the quantum of its binade, which keeps
53 digits of it.  So the error is relative to the number, and numbers of few digits stay as they
are.
-/

namespace BaudSwitch

/-! ## Integers -/

/-- No integer is nearer, and this one is even if another one is as near. -/
def IsNearest (number : ℚ) (integer : ℤ) : Prop :=
  |number - integer| ≤ 1 / 2 ∧ (|number - integer| = 1 / 2 → Even integer)

/-- Round to the nearest integer, halves to the even one. -/
def roundEven (number : ℚ) : ℤ :=
  let below := ⌊number⌋
  let rest := number - below
  if rest < 1 / 2 ∨ (rest = 1 / 2 ∧ below % 2 = 0) then below else below + 1

namespace IsNearest

variable {number larger : ℚ} {integer other : ℤ}

/-- Of two numbers, the larger one has no smaller nearest integer. -/
theorem mono (nearest : IsNearest number integer) (otherNearest : IsNearest larger other)
    (ordered : number ≤ larger) : integer ≤ other := by
  obtain ⟨near, even⟩ := nearest
  obtain ⟨otherNear, otherEven⟩ := otherNearest
  by_contra smaller
  have apart : other + 1 ≤ integer := by omega
  have apartRational : (other : ℚ) + 1 ≤ integer := by exact_mod_cast apart
  obtain ⟨least, -⟩ := abs_le.mp near
  obtain ⟨-, most⟩ := abs_le.mp otherNear
  -- The numbers must meet half-way between neighbours, and neighbours are not both even.
  have neighbour : integer = other + 1 := by
    have close : (integer : ℚ) ≤ other + 1 := by linarith
    have closeInteger : integer ≤ other + 1 := by exact_mod_cast close
    omega
  have half : number - integer = -(1 / 2) := by linarith
  have otherHalf : larger - other = 1 / 2 := by linarith
  have evenInteger := even (by rw [half, abs_neg, abs_of_pos (by norm_num)])
  have evenOther := otherEven (by rw [otherHalf, abs_of_pos (by norm_num)])
  rw [neighbour] at evenInteger
  exact absurd evenInteger (by simpa [Int.even_add_one] using evenOther)

theorem unique (nearest : IsNearest number integer) (otherNearest : IsNearest number other) :
    integer = other :=
  le_antisymm (nearest.mono otherNearest le_rfl) (otherNearest.mono nearest le_rfl)

theorem of_lt (near : |number - integer| < 1 / 2) : IsNearest number integer :=
  ⟨near.le, fun half => absurd half near.ne⟩

end IsNearest

theorem isNearest_roundEven (number : ℚ) : IsNearest number (roundEven number) := by
  have least := Int.floor_le number
  have most := Int.lt_floor_add_one number
  unfold roundEven
  dsimp only
  split
  next low =>
    rw [IsNearest, abs_of_nonneg (sub_nonneg.mpr least)]
    rcases low with less | ⟨half, even⟩
    · exact ⟨less.le, fun half => absurd half less.ne⟩
    · exact ⟨half.le, fun _ => Int.even_iff.mpr even⟩
  next high =>
    obtain ⟨large, odd⟩ := not_or.mp high
    have distance : |number - (⌊number⌋ + 1 : ℤ)| = ⌊number⌋ + 1 - number := by
      push_cast
      rw [abs_sub_comm, abs_of_nonneg (by linarith)]
    rw [not_lt] at large
    rw [IsNearest, distance]
    refine ⟨by linarith, fun half => ?_⟩
    have oddBelow : ⌊number⌋ % 2 ≠ 0 := fun even => odd ⟨by linarith, even⟩
    rw [Int.even_iff]
    omega

theorem roundEven_eq_iff {number : ℚ} {integer : ℤ} :
    roundEven number = integer ↔ IsNearest number integer := by
  constructor
  · rintro rfl
    exact isNearest_roundEven number
  · exact (isNearest_roundEven number).unique

theorem roundEven_mono {number larger : ℚ} (ordered : number ≤ larger) :
    roundEven number ≤ roundEven larger :=
  (isNearest_roundEven number).mono (isNearest_roundEven larger) ordered

theorem roundEven_intCast (integer : ℤ) : roundEven integer = integer :=
  roundEven_eq_iff.mpr (.of_lt (by simp))

/-! ## Double precision -/

namespace Binary64

/-- The distance between the numbers of double precision around this one. -/
def quantum (number : ℚ) : ℚ :=
  2 ^ max (Int.log 2 |number| - 52) (-1074)

/-- Round to double precision, which numbers below `2 ^ 1023` do not overflow. -/
def round (number : ℚ) : ℚ :=
  roundEven (number / quantum number) * quantum number

theorem quantum_pos (number : ℚ) : 0 < quantum number :=
  zpow_pos (by norm_num) _

theorem quantum_le {number bound : ℚ} (one : 1 ≤ bound) (within : |number| ≤ bound) :
    quantum number ≤ bound / 2 ^ 52 := by
  have leading : (2 : ℚ) ^ max (Int.log 2 |number|) 0 ≤ bound := by
    rcases max_choice (Int.log 2 |number|) 0 with same | same <;> rw [same]
    · by_cases zero : number = 0
      · simpa [zero] using one
      · exact (Int.zpow_log_le_self one_lt_two (abs_pos.mpr zero)).trans within
    · simpa using one
  calc quantum number ≤ 2 ^ (max (Int.log 2 |number|) 0 - 52) := by
        apply zpow_le_zpow_right₀ one_le_two
        omega
    _ = 2 ^ max (Int.log 2 |number|) 0 / 2 ^ 52 := by
        rw [zpow_sub₀ two_ne_zero]
        norm_cast
    _ ≤ bound / 2 ^ 52 := div_le_div_of_nonneg_right leading (by positivity)

/-- Against a bound of the number, and of one, the error is small. -/
theorem round_error {number bound : ℚ} (one : 1 ≤ bound) (within : |number| ≤ bound) :
    |round number - number| ≤ bound / 2 ^ 53 := by
  have positive := quantum_pos number
  have near := (isNearest_roundEven (number / quantum number)).1
  have scaled : round number - number =
      -((number / quantum number - roundEven (number / quantum number)) * quantum number) := by
    rw [round, sub_mul, div_mul_cancel₀ _ positive.ne']
    ring
  calc |round number - number|
      = |number / quantum number - roundEven (number / quantum number)| * quantum number := by
        rw [scaled, abs_neg, abs_mul, abs_of_pos positive]
    _ ≤ 1 / 2 * quantum number := mul_le_mul_of_nonneg_right near positive.le
    _ ≤ 1 / 2 * (bound / 2 ^ 52) := by linarith [quantum_le one within]
    _ = bound / 2 ^ 53 := by ring

/-- The two errors of a number that is rounded, lowered by one, and rounded again. -/
theorem round_sub_one_error {number bound : ℚ} (one : 1 ≤ bound) (within : |number| ≤ bound) :
    |round (round number - 1) - (number - 1)| ≤ 4 * bound / 2 ^ 53 := by
  have first := round_error one within
  have withinLess : |round number - 1| ≤ 3 * bound := by
    calc |round number - 1| = |(round number - number) + (number - 1)| := by congr 1; ring
      _ ≤ |round number - number| + (|number| + |1|) :=
        (abs_add_le _ _).trans (add_le_add_right (abs_sub _ _) _)
      _ ≤ 3 * bound := by
        rw [abs_one]
        linarith
  have second := round_error (by linarith) withinLess
  calc |round (round number - 1) - (number - 1)|
      = |(round (round number - 1) - (round number - 1)) + (round number - number)| := by
        congr 1
        ring
    _ ≤ 3 * bound / 2 ^ 53 + bound / 2 ^ 53 := (abs_add_le _ _).trans (add_le_add second first)
    _ = 4 * bound / 2 ^ 53 := by ring

theorem round_zero : round 0 = 0 := by
  have zero : roundEven 0 = 0 := roundEven_intCast 0
  rw [round, zero_div, zero, Int.cast_zero, zero_mul]

/-- Half an integer of at most 53 digits stays as it is. -/
theorem round_half (integer : ℤ) (small : |integer| < 2 ^ 53) :
    round (integer / 2) = integer / 2 := by
  by_cases zero : integer = 0
  · simp [zero, round_zero]
  have below : |(integer : ℚ) / 2| < 2 ^ (52 : ℤ) := by
    have smallRational : |(integer : ℚ)| < 2 ^ 53 := by exact_mod_cast small
    rw [abs_div, abs_two, div_lt_iff₀ two_pos]
    norm_num at smallRational ⊢
    exact smallRational
  have fine : max (Int.log 2 |(integer : ℚ) / 2| - 52) (-1074) ≤ -1 := by
    have digits := (Int.lt_zpow_iff_log_lt one_lt_two (abs_pos.mpr (by simpa using zero))).mp below
    omega
  -- The quantum goes into one half, and so into the number.
  obtain ⟨shift, exponent⟩ := Int.eq_ofNat_of_zero_le (Int.sub_nonneg.mpr fine)
  have half : (1 / 2 : ℚ) = 2 ^ shift * quantum (integer / 2) := by
    rw [quantum, ← zpow_natCast, ← zpow_add₀ two_ne_zero, ← exponent]
    norm_num
  have multiple : (integer : ℚ) / 2 / quantum (integer / 2) = (integer * 2 ^ shift : ℤ) := by
    rw [div_eq_iff (quantum_pos _).ne']
    push_cast
    linear_combination (integer : ℚ) * half
  rw [round, multiple, roundEven_intCast, ← multiple, div_mul_cancel₀ _ (quantum_pos _).ne']

end Binary64

end BaudSwitch
