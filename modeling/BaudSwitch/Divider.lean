/-!
# The UART divider

A mini UART clocked at `clock` runs at `baud` when its divider is `clock / (8 * baud) - 1`,
which is rounded to the nearest whole number, halves to the even one.
-/

namespace BaudSwitch

/-- The divider for a baud rate, none for a rate of zero and for one so fast that the divider
would round below zero. -/
def divider? (clock baud : UInt32) : Option UInt32 :=
  let step := 8 * baud.toNat
  let quotient := clock.toNat / step
  let rest := clock.toNat % step
  if baud = 0 ∨ clock.toNat < 4 * baud.toNat then none
  else if 2 * rest < step ∨ (2 * rest = step ∧ quotient % 2 = 1) then
    some (UInt32.ofNat (quotient - 1))
  else
    some (UInt32.ofNat quotient)

end BaudSwitch
