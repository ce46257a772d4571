import BaudSwitch.Hex

/-!
# Printable octets

A one-line ASCII rendering of any octets: printable characters stand for themselves, tab,
return, newline, the two quotes and the backslash get a backslash in front, and every other
octet is `\x` with two lower-case digits.  `read?` undoes it.
-/

namespace BaudSwitch.Printable

/-- The letter that follows the backslash, for the octets that have one. -/
def letter? (octet : UInt8) : Option Char :=
  if octet = 0x09 then some 't'
  else if octet = 0x0D then some 'r'
  else if octet = 0x0A then some 'n'
  else if octet = 0x27 then some '\x27'
  else if octet = 0x22 then some '\x22'
  else if octet = 0x5C then some '\\'
  else none

def octet (octet : UInt8) : List Char :=
  match letter? octet with
  | some letter => ['\\', letter]
  | none =>
      if 0x20 ≤ octet ∧ octet ≤ 0x7E then [Char.ofNat octet.toNat]
      else '\\' :: 'x' :: (Hex.encodeOctet octet).map fun digit => Char.ofNat digit.toNat

def chars (bytes : Bytes) : List Char :=
  bytes.flatMap octet

def text (bytes : Bytes) : String :=
  String.ofList (chars bytes)

/-- The octet named by the letter after a backslash. -/
def named? (letter : Char) : Option UInt8 :=
  if letter = 't' then some 0x09
  else if letter = 'r' then some 0x0D
  else if letter = 'n' then some 0x0A
  else if letter = '\x27' then some 0x27
  else if letter = '\x22' then some 0x22
  else if letter = '\\' then some 0x5C
  else none

/-- Read a rendering back. -/
def read? : List Char → Option Bytes
  | [] => some []
  | '\\' :: 'x' :: high :: low :: rest =>
      match Hex.decodeOctet (UInt8.ofNat high.toNat) (UInt8.ofNat low.toNat) with
      | .ok octet => (read? rest).map (octet :: ·)
      | .error _ => none
  | '\\' :: letter :: rest =>
      match named? letter with
      | some octet => (read? rest).map (octet :: ·)
      | none => none
  | character :: rest =>
      if character = '\\' then none
      else (read? rest).map (UInt8.ofNat character.toNat :: ·)

end BaudSwitch.Printable
