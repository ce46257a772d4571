import BaudSwitch.Divider
import BaudSwitch.Proofs.Divider.Rounding
import Mathlib.Tactic.FieldSimp
import Mathlib.Tactic.Ring

/-!
# The divider in exact and in double precision

The divider is the exact quotient, less one, rounded to the nearest integer with halves to the even
one, and there is none where that is negative.  Double precision does not come into it: the
quotient is so far from every half, if it is none itself, that its errors do not reach there.
-/

namespace BaudSwitch

/-- The number that is rounded to the divider. -/
def exactDivider (clock baud : UInt32) : ℚ :=
  clock.toNat / (8 * baud.toNat) - 1

/-- The number that is rounded to the divider in double precision, where each operation rounds. -/
def binary64Divider (clock baud : UInt32) : ℚ :=
  let step := Binary64.round (8 * baud.toNat)
  let quotient := Binary64.round (clock.toNat / step)
  Binary64.round (quotient - 1)

/-- The divider as it comes of double precision. -/
def binary64Divider? (clock baud : UInt32) : Option UInt32 :=
  let divider := roundEven (binary64Divider clock baud)
  if baud = 0 then none
  else if 0 ≤ divider ∧ divider ≤ 2 ^ 32 - 1 then some (UInt32.ofNat divider.toNat)
  else none

/-- The divider leads to no rate farther off than a half step, and is even at a half step. -/
def Approximates (clock baud : UInt32) (divider : ℤ) : Prop :=
  let distance := |(clock.toNat : ℤ) - 8 * baud.toNat * (divider + 1)|
  distance ≤ 4 * baud.toNat ∧ (distance = 4 * baud.toNat → Even divider)

section Pair

variable {clock baud : UInt32}

theorem toNat_pos_of_ne_zero (running : baud ≠ 0) : 0 < baud.toNat := by
  apply Nat.pos_of_ne_zero
  intro zero
  exact running (UInt32.toNat_inj.mp zero)

theorem cast_toNat_pos (running : baud ≠ 0) : (0 : ℚ) < baud.toNat :=
  Nat.cast_pos.mpr (toNat_pos_of_ne_zero running)

/-! ## Exact rounding -/

theorem abs_exactDivider_sub (running : baud ≠ 0) (divider : ℤ) :
    |exactDivider clock baud - divider| =
      (|(clock.toNat : ℤ) - 8 * baud.toNat * (divider + 1)| : ℤ) / (8 * baud.toNat) := by
  have rate := cast_toNat_pos running
  have positive : (0 : ℚ) < 8 * baud.toNat := by positivity
  push_cast
  rw [← abs_of_pos positive, ← abs_div, abs_of_pos positive, exactDivider]
  congr 1
  field_simp
  ring

theorem isNearest_exactDivider_iff (running : baud ≠ 0) {divider : ℤ} :
    IsNearest (exactDivider clock baud) divider ↔ Approximates clock baud divider := by
  have rate := cast_toNat_pos running
  have positive : (0 : ℚ) < 8 * baud.toNat := by positivity
  have half : (1 / 2 : ℚ) = (4 * baud.toNat : ℤ) / (8 * baud.toNat) := by
    push_cast
    field_simp
    norm_num
  rw [IsNearest, Approximates, abs_exactDivider_sub running, half,
    div_le_div_iff_of_pos_right positive, div_left_inj' positive.ne', Int.cast_le, Int.cast_inj]

theorem roundEven_exactDivider_eq_iff (running : baud ≠ 0) {divider : ℤ} :
    roundEven (exactDivider clock baud) = divider ↔ Approximates clock baud divider := by
  rw [roundEven_eq_iff, isNearest_exactDivider_iff running]

theorem approximates_roundEven (running : baud ≠ 0) :
    Approximates clock baud (roundEven (exactDivider clock baud)) :=
  (roundEven_exactDivider_eq_iff running).mp rfl

/-- Even the slowest rate of the fastest clock needs no more digits. -/
theorem Approximates.lt {divider : ℤ} (running : baud ≠ 0)
    (approximates : Approximates clock baud divider) : divider < 2 ^ 29 := by
  have positive : (0 : ℤ) < baud.toNat := by exact_mod_cast toNat_pos_of_ne_zero running
  have clockBound : (clock.toNat : ℤ) < 2 ^ 32 := by exact_mod_cast clock.toNat_lt
  obtain ⟨least, -⟩ := abs_le.mp approximates.1
  by_contra large
  have product : baud.toNat * 2 ^ 29 ≤ baud.toNat * divider :=
    Int.mul_le_mul_of_nonneg_left (not_lt.mp large) positive.le
  linarith

/-- The quotient less one is the divider where the rest is small, and the quotient where it is
large. -/
theorem roundEven_of_quotient (running : baud ≠ 0) :
    let step := 8 * baud.toNat
    let quotient := clock.toNat / step
    let rest := clock.toNat % step
    roundEven (exactDivider clock baud) =
      if 2 * rest < step ∨ (2 * rest = step ∧ quotient % 2 = 1) then (quotient : ℤ) - 1
      else quotient := by
  intro step quotient rest
  have small : rest < step := Nat.mod_lt _ (by have := toNat_pos_of_ne_zero running; omega)
  have whole : (clock.toNat : ℤ) = step * quotient + rest := by
    exact_mod_cast (Nat.div_add_mod clock.toNat step).symm
  have doubled : (step : ℤ) = 8 * baud.toNat := by simp [step]
  rw [roundEven_exactDivider_eq_iff running, Approximates, ← doubled, whole]
  split
  next low =>
    have distance : |(step * quotient + rest : ℤ) - step * (quotient - 1 + 1)| = rest := by
      rw [sub_add_cancel, add_sub_cancel_left, Nat.abs_cast]
    rw [distance, Int.even_iff]
    omega
  next high =>
    have distance : |(step * quotient + rest : ℤ) - step * (quotient + 1)| = step - rest := by
      rw [mul_add, mul_one, add_sub_add_left_eq_sub, abs_sub_comm, abs_of_nonneg (by omega)]
    rw [distance, Int.even_iff]
    omega

/-- The computation on whole numbers is exact rounding. -/
theorem divider?_eq (running : baud ≠ 0) :
    divider? clock baud =
      if 0 ≤ roundEven (exactDivider clock baud) then
        some (UInt32.ofNat (roundEven (exactDivider clock baud)).toNat)
      else none := by
  have whole := Nat.div_add_mod clock.toNat (8 * baud.toNat)
  rw [roundEven_of_quotient running, divider?]
  generalize clock.toNat / (8 * baud.toNat) = quotient at whole ⊢
  generalize clock.toNat % (8 * baud.toNat) = rest at whole ⊢
  have least : quotient = 0 ∨ 8 * baud.toNat ≤ 8 * baud.toNat * quotient :=
    quotient.eq_zero_or_pos.imp_right (Nat.le_mul_of_pos_right _)
  by_cases fast : clock.toNat < 4 * baud.toNat
  · obtain rfl : quotient = 0 := least.resolve_right (by omega)
    rw [mul_zero, zero_add] at whole
    have low : 2 * rest < 8 * baud.toNat := by omega
    rw [if_pos (.inr fast)]
    simp [low]
  · rw [if_neg (not_or.mpr ⟨running, fast⟩)]
    split
    next low =>
      have positive : 0 < quotient := by
        apply Nat.pos_of_ne_zero
        rintro rfl
        rw [mul_zero, zero_add] at whole
        omega
      have less : ((quotient : ℤ) - 1).toNat = quotient - 1 := by omega
      rw [if_pos (by omega), less]
    next high => rw [if_pos (Int.natCast_nonneg _), Int.toNat_natCast]

theorem divider?_eq_none_iff :
    divider? clock baud = none ↔ baud = 0 ∨ clock.toNat < 4 * baud.toNat := by
  unfold divider?
  dsimp only
  split_ifs <;> simp_all

theorem divider?_eq_some_iff (running : baud ≠ 0) {divider : UInt32} :
    divider? clock baud = some divider ↔ roundEven (exactDivider clock baud) = divider.toNat := by
  have bound : roundEven (exactDivider clock baud) < 2 ^ 29 :=
    (approximates_roundEven running).lt running
  rw [divider?_eq running]
  constructor
  · intro given
    split at given
    next nonnegative =>
      obtain rfl := Option.some.inj given
      rw [UInt32.toNat_ofNat_of_lt' (by rw [UInt32.size]; omega), Int.toNat_of_nonneg nonnegative]
    next => cases given
  · intro rounded
    rw [rounded, if_pos (Int.natCast_nonneg _), Int.toNat_natCast, UInt32.ofNat_toNat]

/-! ## Other pairs -/

theorem exactDivider_le {otherClock otherBaud : UInt32} (running : otherBaud ≠ 0)
    (faster : clock ≤ otherClock) (slower : otherBaud ≤ baud) :
    exactDivider clock baud ≤ exactDivider otherClock otherBaud := by
  have rate := cast_toNat_pos running
  have fasterRational : (clock.toNat : ℚ) ≤ otherClock.toNat := by exact_mod_cast faster
  have slowerRational : (otherBaud.toNat : ℚ) ≤ baud.toNat := by exact_mod_cast slower
  unfold exactDivider
  gcongr

/-- The divider of a faster clock or a slower rate is no smaller, and there is one if there was. -/
theorem divider?_mono {otherClock otherBaud divider : UInt32} (running : otherBaud ≠ 0)
    (faster : clock ≤ otherClock) (slower : otherBaud ≤ baud)
    (given : divider? clock baud = some divider) :
    ∃ larger, divider? otherClock otherBaud = some larger ∧ divider ≤ larger := by
  have runningToo : baud ≠ 0 := by
    rintro rfl
    exact running (UInt32.le_antisymm slower (UInt32.zero_le))
  have rounded := (divider?_eq_some_iff runningToo).mp given
  have ordered := roundEven_mono (exactDivider_le running faster slower)
  obtain ⟨larger, found⟩ : ∃ larger, divider? otherClock otherBaud = some larger := by
    rw [divider?_eq running, if_pos (by omega)]
    exact ⟨_, rfl⟩
  have roundedToo := (divider?_eq_some_iff running).mp found
  refine ⟨larger, found, ?_⟩
  rw [UInt32.le_iff_toNat_le]
  omega

theorem divider?_scaled {otherClock otherBaud : UInt32} {factor : ℕ} (positive : 0 < factor)
    (clocks : otherClock.toNat = factor * clock.toNat)
    (bauds : otherBaud.toNat = factor * baud.toNat) :
    divider? otherClock otherBaud = divider? clock baud := by
  by_cases stopped : baud = 0
  · subst stopped
    have stoppedToo : otherBaud = 0 := UInt32.toNat_inj.mp (by simpa using bauds)
    rw [stoppedToo, divider?_eq_none_iff.mpr (.inl rfl), divider?_eq_none_iff.mpr (.inl rfl)]
  · have rate := toNat_pos_of_ne_zero stopped
    have running : otherBaud ≠ 0 := by
      rintro rfl
      have product := Nat.mul_pos positive rate
      simp at bauds
      omega
    have same : exactDivider otherClock otherBaud = exactDivider clock baud := by
      rw [exactDivider, exactDivider, clocks, bauds]
      push_cast
      field_simp
    rw [divider?_eq running, divider?_eq stopped, same]

/-! ## Double precision -/

/-- What is no half-way point between two integers is at least a unit of the fraction away from
it. -/
theorem exactDivider_half_or_far {divider : ℤ} (running : baud ≠ 0)
    (approximates : Approximates clock baud divider) :
    (∃ integer : ℤ, exactDivider clock baud = integer / 2) ∨
      |exactDivider clock baud - divider| ≤ 1 / 2 - 1 / (8 * baud.toNat) := by
  have rate := cast_toNat_pos running
  have distance : |exactDivider clock baud - divider| = _ := abs_exactDivider_sub running divider
  obtain ⟨near, -⟩ := approximates
  generalize |(clock.toNat : ℤ) - 8 * baud.toNat * (divider + 1)| = error at near distance
  rcases near.eq_or_lt with half | less
  · left
    have apart : |exactDivider clock baud - divider| = 1 / 2 := by
      rw [distance, half]
      push_cast
      field_simp
      norm_num
    rcases eq_or_eq_neg_of_abs_eq apart with above | below
    · exact ⟨2 * divider + 1, by push_cast; linarith⟩
    · exact ⟨2 * divider - 1, by push_cast; linarith⟩
  · right
    have unit : (error : ℚ) ≤ 4 * baud.toNat - 1 := by exact_mod_cast Int.le_sub_one_of_lt less
    calc |exactDivider clock baud - divider| = error / (8 * baud.toNat) := distance
      _ ≤ (4 * baud.toNat - 1) / (8 * baud.toNat) :=
        div_le_div_of_nonneg_right unit (by positivity)
      _ = 1 / 2 - 1 / (8 * baud.toNat) := by
        field_simp
        ring

/-- Half-way between two integers nothing is rounded. -/
theorem round_sub_one_of_half {number : ℚ} {integer : ℤ} (half : number - 1 = integer / 2)
    (small : |number| ≤ 2 ^ 32) :
    Binary64.round (Binary64.round number - 1) = number - 1 := by
  have doubled : number = (integer + 2 : ℤ) / 2 := by
    push_cast
    linarith
  have digits : |integer + 2| ≤ 2 ^ 33 := by
    rw [doubled, abs_div, abs_two, div_le_iff₀ two_pos] at small
    exact_mod_cast small
  rw [abs_le] at digits
  have whole := Binary64.round_half (integer + 2) (by rw [abs_lt]; omega)
  have lowered := Binary64.round_half integer (by rw [abs_lt]; omega)
  rw [doubled, whole, ← doubled, half, lowered]

/-- Elsewhere the errors are too small to take the number to the next half. -/
theorem roundEven_binary64Divider (running : baud ≠ 0) :
    roundEven (binary64Divider clock baud) = roundEven (exactDivider clock baud) := by
  have one : (1 : ℚ) ≤ baud.toNat := by exact_mod_cast toNat_pos_of_ne_zero running
  have rateBound : (baud.toNat : ℚ) ≤ 2 ^ 32 := by exact_mod_cast baud.toNat_lt.le
  have clockBound : (clock.toNat : ℚ) ≤ 2 ^ 32 := by exact_mod_cast clock.toNat_lt.le
  have step : Binary64.round (8 * baud.toNat) = 8 * baud.toNat := by
    have digits := baud.toNat_lt
    have exact := Binary64.round_half (16 * baud.toNat) (by rw [abs_lt]; omega)
    convert exact using 2 <;> push_cast <;> ring
  have within : |(clock.toNat / (8 * baud.toNat) : ℚ)| ≤ 2 ^ 32 / baud.toNat := by
    rw [abs_of_nonneg (by positivity), div_le_div_iff₀ (by positivity) (by positivity)]
    nlinarith
  rw [binary64Divider, step]
  rcases exactDivider_half_or_far running (approximates_roundEven running) with
    ⟨integer, half⟩ | far
  · have small : (2 ^ 32 / baud.toNat : ℚ) ≤ 2 ^ 32 := div_le_self (by positivity) one
    rw [round_sub_one_of_half half (within.trans small), exactDivider]
  · have large : (1 : ℚ) ≤ 2 ^ 32 / baud.toNat := by rwa [one_le_div₀ (by linarith)]
    have error := Binary64.round_sub_one_error large within
    have less : 4 * (2 ^ 32 / baud.toNat) / 2 ^ 53 < (1 / (8 * baud.toNat) : ℚ) := by
      rw [← mul_div_assoc, div_div, div_lt_div_iff₀ (by positivity) (by positivity)]
      linarith
    rw [← exactDivider] at error
    rw [roundEven_eq_iff]
    apply IsNearest.of_lt
    calc |Binary64.round (Binary64.round (clock.toNat / (8 * baud.toNat)) - 1) -
          roundEven (exactDivider clock baud)|
        ≤ _ + |exactDivider clock baud - roundEven (exactDivider clock baud)| :=
          abs_sub_le _ (exactDivider clock baud) _
      _ < 1 / 2 := by linarith

theorem binary64Divider?_eq : binary64Divider? clock baud = divider? clock baud := by
  by_cases stopped : baud = 0
  · rw [divider?_eq_none_iff.mpr (.inl stopped), binary64Divider?, if_pos stopped]
  · have bound : roundEven (exactDivider clock baud) < 2 ^ 29 :=
      (approximates_roundEven stopped).lt stopped
    rw [binary64Divider?, if_neg stopped, divider?_eq stopped, roundEven_binary64Divider stopped]
    congr 1
    apply propext
    omega

end Pair

/-- The divider is the exact one, rounded to the nearest integer with halves to the even one, and
there is none exactly where that is negative.  It grows with the clock, shrinks with the rate and
depends on nothing but their proportion, and it is the one that double precision leads to. -/
theorem divider_exactly_rounded (clock baud : UInt32) :
    (divider? clock baud = none ↔ baud = 0 ∨ clock.toNat < 4 * baud.toNat) ∧
    (baud ≠ 0 → (divider? clock baud = none ↔ roundEven (exactDivider clock baud) < 0)) ∧
    (baud ≠ 0 → 4 * baud.toNat ≤ clock.toNat →
      ∃ divider, divider? clock baud = some divider ∧ divider.toNat < 2 ^ 29 ∧
        divider.toNat = roundEven (exactDivider clock baud) ∧
        ∀ other : ℕ, Approximates clock baud other ↔ other = divider.toNat) ∧
    (∀ slower divider, slower ≠ 0 → slower ≤ baud → divider? clock baud = some divider →
      ∃ larger, divider? clock slower = some larger ∧ divider ≤ larger) ∧
    (∀ faster divider, clock ≤ faster → divider? clock baud = some divider →
      ∃ larger, divider? faster baud = some larger ∧ divider ≤ larger) ∧
    (∀ factor : ℕ, ∀ otherClock otherBaud : UInt32, 0 < factor →
      otherClock.toNat = factor * clock.toNat → otherBaud.toNat = factor * baud.toNat →
      divider? otherClock otherBaud = divider? clock baud) ∧
    (baud ≠ 0 → roundEven (binary64Divider clock baud) < 2 ^ 29) ∧
    binary64Divider? clock baud = divider? clock baud := by
  refine ⟨divider?_eq_none_iff, ?negative, ?rounded, ?slower, ?faster, ?scaled, ?range,
    binary64Divider?_eq⟩
  case negative =>
    intro running
    rw [divider?_eq running]
    simp
  case rounded =>
    intro running enough
    have given : divider? clock baud ≠ none := by
      rw [Ne, divider?_eq_none_iff, not_or, not_lt]
      exact ⟨running, enough⟩
    obtain ⟨divider, found⟩ := Option.ne_none_iff_exists'.mp given
    have rounded := (divider?_eq_some_iff running).mp found
    have approximates := (roundEven_exactDivider_eq_iff running).mp rounded
    refine ⟨divider, found, by exact_mod_cast approximates.lt running, rounded.symm, ?_⟩
    intro other
    rw [← roundEven_exactDivider_eq_iff running, rounded]
    omega
  case slower =>
    intro slower divider running ordered given
    exact divider?_mono running UInt32.le_rfl ordered given
  case faster =>
    intro faster divider ordered given
    have running : baud ≠ 0 := by
      rintro rfl
      simp [divider?] at given
    exact divider?_mono running ordered UInt32.le_rfl given
  case scaled =>
    intro factor otherClock otherBaud positive clocks bauds
    exact divider?_scaled positive clocks bauds
  case range =>
    intro running
    rw [roundEven_binary64Divider running]
    exact (approximates_roundEven running).lt running

/-- One and a half is rounded to two.  At the fastest rate, where the exact number is a half below
zero, the divider is zero. -/
theorem divider_exactly_rounded_halves :
    divider? 20 1 = some 2 ∧ divider? 250000000 62500000 = some 0 ∧
      divider? 250000000 62500001 = none := by
  have nearest (clock baud : UInt32) (divider : ℕ) (running : baud ≠ 0)
      (enough : 4 * baud.toNat ≤ clock.toNat) (approximates : Approximates clock baud divider) :
      divider? clock baud = some (UInt32.ofNat divider) := by
    obtain ⟨-, -, rounded, -⟩ := divider_exactly_rounded clock baud
    obtain ⟨found, given, -, -, unique⟩ := rounded running enough
    rw [given, (unique divider).mp approximates, UInt32.ofNat_toNat]
  refine ⟨?_, ?_, ?_⟩
  · exact nearest 20 1 2 (by decide) (by decide) ⟨by decide, fun _ => by decide⟩
  · exact nearest 250000000 62500000 0 (by decide) (by decide) ⟨by decide, fun _ => by decide⟩
  · exact (divider_exactly_rounded 250000000 62500001).1.mpr (.inr (by decide))

end BaudSwitch
