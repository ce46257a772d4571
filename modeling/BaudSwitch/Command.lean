import BaudSwitch.Packet.Reply
import BaudSwitch.Text.Printable

/-!
# Commands

The few requests that the switch needs: an empty probe, the capability query, and a command
line for the monitor behind the stub, which travels in hexadecimal.
-/

namespace BaudSwitch

inductive Command where
  /-- An empty packet, to provoke the first reply. -/
  | probe
  | querySupported
  | monitor (line : Bytes)
  deriving DecidableEq, Repr

namespace Command

def queryVerb : Bytes := Bytes.ascii "qSupported"

def monitorVerb : Bytes := Bytes.ascii "qRcmd,"

def decimal (number : Nat) : Bytes :=
  (Nat.toDigits 10 number).map fun digit => digit.toNat.toUInt8

/-- The command line that writes a divider into the register at an address. -/
def memoryWrite (register divider : UInt32) : Bytes :=
  Bytes.ascii "mw32 0x" ++ Hex.padded 8 register.toNat ++ 0x20 :: decimal divider.toNat

def setDivider (register divider : UInt32) : Command :=
  .monitor (memoryWrite register divider)

/-- What the packet of a command carries. -/
def payload : Command → Bytes
  | .probe => []
  | .querySupported => queryVerb
  | .monitor line => monitorVerb ++ Hex.encode line

/-- How a command appears in the journal. -/
def text : Command → String
  | .probe => "<probe>"
  | .querySupported => "qSupported"
  | .monitor line => "monitor " ++ Printable.text line

end Command

/-- What the monitor printed: the hexadecimal after an `O` in its reply. Any other reply, and
a bare `O`, prints nothing. -/
def consoleOutput? : Bytes → Option Bytes
  | octet :: digits =>
      if octet = 0x4F ∧ digits ≠ [] then (Hex.decode digits).toOption else none
  | [] => none

end BaudSwitch
