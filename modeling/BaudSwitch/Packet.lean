import BaudSwitch.Hex

/-!
# Packets

A packet is a start mark, the payload with its reserved octets escaped, a stop mark, and two
digits for the sum of the payload modulo 256.
-/

namespace BaudSwitch.Packet

/-- The dollar sign opens a packet. -/
def startMark : UInt8 := 0x24

/-- The hash sign ends the body; two digits follow. -/
def stopMark : UInt8 := 0x23

/-- A right brace in front of an octet that had to be changed. -/
def escapeMark : UInt8 := 0x7D

/-- What an escaped octet is changed by. -/
def escapeMask : UInt8 := 0x20

/-- A plus sign tells the other side that its packet arrived. -/
def acknowledgement : Bytes := [0x2B]

/-- The octets that never stand for themselves inside a body. -/
def isReserved (octet : UInt8) : Bool :=
  octet == startMark || octet == stopMark || octet == escapeMark

def escapeOctet (octet : UInt8) : Bytes :=
  if isReserved octet then [escapeMark, octet ^^^ escapeMask] else [octet]

def escape (payload : Bytes) : Bytes :=
  payload.flatMap escapeOctet

/-- The payload that a body stands for. An escape mark with nothing after it is dropped. -/
def unescape : Bytes → Bytes
  | [] => []
  | [octet] => if octet = escapeMark then [] else [octet]
  | octet :: next :: rest =>
      if octet = escapeMark then (next ^^^ escapeMask) :: unescape rest
      else octet :: unescape (next :: rest)

/-- The sum of a payload modulo 256. -/
def checksum (payload : Bytes) : UInt8 :=
  payload.foldl (· + ·) 0

def frame (payload : Bytes) : Bytes :=
  startMark :: (escape payload ++ stopMark :: Hex.encodeOctet (checksum payload))

end BaudSwitch.Packet
