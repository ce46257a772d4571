import BaudSwitch.Packet

/-!
# Replies

What came back in one read may hold noise before the packet, a packet cut short, or more than
one packet.  The reply is the first one: it begins after the first start mark and its body ends
at the next stop mark.
-/

namespace BaudSwitch.Packet

/-- Why a reply cannot be trusted. -/
inductive Error where
  | hex (cause : Hex.Error)
  | missingTrailer
  | mismatch (received computed : UInt8)
  deriving DecidableEq, Repr

def Error.message : Error → String
  | .hex cause => cause.message
  | .missingTrailer => "Packet has no checksum trailer"
  | .mismatch received computed =>
      "Checksum mismatch: received " ++ Hex.text (Hex.encodeOctet received) ++
        ", computed " ++ Hex.text (Hex.encodeOctet computed)

/-- What follows the first start mark, if there is one. -/
def afterStart? : Bytes → Option Bytes
  | [] => none
  | octet :: rest => if octet = startMark then some rest else afterStart? rest

/-- The body of the reply: up to the stop mark, or all there is when the mark never came.
Without a start mark nothing was said. -/
def extract (raw : Bytes) : Bytes :=
  match afterStart? raw with
  | none => []
  | some rest => rest.takeWhile (· != stopMark)

/-- The two digits behind a body, read as an octet. -/
def trailer (raw : Bytes) : Except Error UInt8 :=
  match afterStart? raw with
  | none => .error .missingTrailer
  | some rest =>
      match rest.dropWhile (· != stopMark) with
      | _ :: high :: low :: _ => (Hex.decodeOctet high low).mapError .hex
      | _ => .error .missingTrailer

/-- The body of the reply, provided that its trailer is the sum of the payload it stands for.
Silence passes. -/
def extractVerified (raw : Bytes) : Except Error Bytes :=
  if raw.contains startMark then do
    let received ← trailer raw
    let body := extract raw
    let computed := checksum (unescape body)
    if received = computed then return body else throw (.mismatch received computed)
  else
    return []

end BaudSwitch.Packet
