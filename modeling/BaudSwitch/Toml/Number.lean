import BaudSwitch.Toml.Quoted
import BaudSwitch.Toml.Value

/-!
# Numbers

Whole numbers in base ten may have a sign; in the other bases they have a mark and no sign.
Underscores may stand between digits.  Limits say how large a whole number may be, and whether a
number with a fraction or an exponent may round to infinity.
-/

namespace BaudSwitch.Toml.Number

def isDigit (character : Char) : Bool :=
  '0' ≤ character && character ≤ '9'

/-- More digits, each with at most one underscore in front. -/
def moreDigits (accepts : Char → Bool) : List Char → List Char × List Char
  | '_' :: character :: rest =>
      if accepts character then
        let (digits, after) := moreDigits accepts rest
        (character :: digits, after)
      else ([], '_' :: character :: rest)
  | character :: rest =>
      if accepts character then
        let (digits, after) := moreDigits accepts rest
        (character :: digits, after)
      else ([], character :: rest)
  | [] => ([], [])

def digits (accepts : Char → Bool) : List Char → Option (List Char × List Char)
  | character :: rest =>
      if accepts character then
        let (more, after) := moreDigits accepts rest
        some (character :: more, after)
      else none
  | [] => none

/-- Digits of a whole number, which has no needless zero in front. -/
def wholeDigits : List Char → Option (List Char × List Char)
  | '0' :: rest => some (['0'], rest)
  | input => digits isDigit input

/-- The number that digits spell in a base. -/
def ofDigits (base : Nat) (digits : List Char) : Nat :=
  digits.foldl (fun number digit => number * base + (hexValue? digit).getD 0) 0

/-- A sign, if there is one: whether it is a minus, and the rest. -/
def sign : List Char → Bool × List Char
  | '-' :: rest => (true, rest)
  | '+' :: rest => (false, rest)
  | input => (false, input)

/-- A whole number within its bounds. -/
def integer? (limits : Limits) (number : Int) : Option Value :=
  if -limits.number ≤ number ∧ number < limits.number then some (.integer number) else none

/-- A whole number after the mark of its base. -/
def inBase (limits : Limits) (base : Nat) (accepts : Char → Bool) (input : List Char) :
    Option (Value × List Char) := do
  let (spelled, rest) ← digits accepts input
  return (← integer? limits (ofDigits base spelled), rest)

/-- The fraction after a point: its digits. -/
def fraction : List Char → Option (List Char × List Char)
  | '.' :: rest => digits isDigit rest
  | input => some ([], input)

/-- The exponent after its mark, zero without one. -/
def exponent : List Char → Option (Int × List Char)
  | mark :: rest =>
      if mark = 'e' ∨ mark = 'E' then do
        let (negative, unsigned) := sign rest
        let (spelled, after) ← digits isDigit unsigned
        let size : Int := ofDigits 10 spelled
        return (if negative then -size else size, after)
      else some (0, mark :: rest)
  | [] => some (0, [])

/-- Whether `mantissa * 10 ^ exponent` rounds to infinity: whether it reaches the middle between
the largest double and the power of two above it. -/
def overflows (mantissa : Nat) (exponent : Int) : Bool :=
  let magnitude : Int := (Nat.toDigits 10 mantissa).length + exponent
  let limit := Nat.pow 2 1024 - Nat.pow 2 970
  if mantissa = 0 ∨ magnitude < 309 then false
  else if 309 < magnitude then true
  else if 0 ≤ exponent then limit ≤ mantissa * Nat.pow 10 exponent.toNat
  else limit * Nat.pow 10 (-exponent).toNat ≤ mantissa

def consumed (input rest : List Char) : String :=
  String.ofList (input.take (input.length - rest.length))

/-- A number in base ten, whole or not, or one of the two special ones. Only numbers above zero
are refused for rounding to infinity. -/
def decimal (limits : Limits) (input : List Char) : Option (Value × List Char) :=
  let (negative, unsigned) := sign input
  match unsigned with
  | 'i' :: 'n' :: 'f' :: rest => some (.float (consumed input rest), rest)
  | 'n' :: 'a' :: 'n' :: rest => some (.float (consumed input rest), rest)
  | _ => do
      let (whole, afterWhole) ← wholeDigits unsigned
      let (part, afterPart) ← fraction afterWhole
      let (power, rest) ← exponent afterPart
      if rest.length = afterWhole.length then
        let number : Int := ofDigits 10 whole
        return (← integer? limits (if negative then -number else number), rest)
      else if !limits.infinite && !negative &&
          overflows (ofDigits 10 (whole ++ part)) (power - part.length) then
        none
      else
        return (.float (consumed input rest), rest)

def read (limits : Limits) : List Char → Option (Value × List Char)
  | '0' :: 'x' :: rest => inBase limits 16 (fun character => (hexValue? character).isSome) rest
  | '0' :: 'o' :: rest =>
      inBase limits 8 (fun character => '0' ≤ character && character ≤ '7') rest
  | '0' :: 'b' :: rest =>
      inBase limits 2 (fun character => character == '0' || character == '1') rest
  | input => decimal limits input

end BaudSwitch.Toml.Number
