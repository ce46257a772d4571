import BaudSwitch.Bytes

/-!
# Hexadecimal

Two digits for every octet.  Writing uses lower case; reading takes either case and names the
leftmost octet that is no digit.
-/

namespace BaudSwitch.Hex

/-- Why a run of octets is no hexadecimal text. -/
inductive Error where
  | oddLength (digits : Nat)
  | invalidDigit (octet : UInt8)
  deriving DecidableEq, Repr

def digit (value : UInt8) : UInt8 :=
  if value < 10 then 0x30 + value else 0x57 + value

def value? (octet : UInt8) : Option UInt8 :=
  if 0x30 ≤ octet ∧ octet ≤ 0x39 then some (octet - 0x30)
  else if 0x61 ≤ octet ∧ octet ≤ 0x66 then some (octet - 0x57)
  else if 0x41 ≤ octet ∧ octet ≤ 0x46 then some (octet - 0x37)
  else none

/-- The number that a digit stands for, or the octet that is none. -/
def value (octet : UInt8) : Except Error UInt8 :=
  match value? octet with
  | some number => .ok number
  | none => .error (.invalidDigit octet)

/-- The two digits of an octet, the high one first. -/
def encodeOctet (octet : UInt8) : Bytes :=
  [digit (octet / 16), digit (octet % 16)]

/-- The octet that two digits spell. -/
def decodeOctet (high low : UInt8) : Except Error UInt8 := do
  let upper ← value high
  let lower ← value low
  return upper * 16 + lower

/-- Two digits for each octet, nothing between them. -/
def encode (bytes : Bytes) : Bytes :=
  bytes.flatMap encodeOctet

/-- The octets that an even number of digits spell. -/
def decodePairs : Bytes → Except Error Bytes
  | high :: low :: rest => do
      let octet ← decodeOctet high low
      return octet :: (← decodePairs rest)
  | _ => .ok []

/-- Undo `encode`. An odd length is refused before any digit is looked at. -/
def decode (digits : Bytes) : Except Error Bytes :=
  if digits.length % 2 = 1 then .error (.oddLength digits.length) else decodePairs digits

/-- The low `width` digits of a number, leading zeros kept. -/
def padded : (width number : Nat) → Bytes
  | 0, _ => []
  | width + 1, number => padded width (number / 16) ++ [digit (UInt8.ofNat (number % 16))]

def text (digits : Bytes) : String :=
  String.ofList (digits.map fun octet => Char.ofNat octet.toNat)

def Error.message : Error → String
  | .oddLength digits => s!"Odd-length hex string ({digits} digits)"
  | .invalidDigit octet => s!"Invalid hex digit 0x{text (encodeOctet octet)}"

end BaudSwitch.Hex
