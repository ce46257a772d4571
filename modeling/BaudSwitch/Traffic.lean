/-!
# Traffic

The books of a session, and their sum over sessions.
-/

namespace BaudSwitch

/-- What went over the line. -/
structure Traffic where
  packetsSent : Nat := 0
  packetsReceived : Nat := 0
  acksSent : Nat := 0
  /-- Octets written, acknowledgements included. -/
  bytesSent : Nat := 0
  /-- Octets read, dropped replies included. -/
  bytesReceived : Nat := 0
  deriving DecidableEq, Repr

namespace Traffic

def add (first second : Traffic) : Traffic where
  packetsSent := first.packetsSent + second.packetsSent
  packetsReceived := first.packetsReceived + second.packetsReceived
  acksSent := first.acksSent + second.acksSent
  bytesSent := first.bytesSent + second.bytesSent
  bytesReceived := first.bytesReceived + second.bytesReceived

instance : Add Traffic := ⟨add⟩

def packet (length : Nat) : Traffic :=
  { packetsSent := 1, bytesSent := length }

def acknowledgement : Traffic :=
  { acksSent := 1, bytesSent := 1 }

/-- A read brought octets, and a payload in them or not. -/
def reply (length : Nat) (answered : Bool) : Traffic :=
  { packetsReceived := if answered then 1 else 0, bytesReceived := length }

/-- The books as the journal shows them. -/
def text (traffic : Traffic) : String :=
  "SessionStats \x7b packets_sent: " ++ toString traffic.packetsSent ++
    ", packets_received: " ++ toString traffic.packetsReceived ++
    ", acks_sent: " ++ toString traffic.acksSent ++
    ", bytes_sent: " ++ toString traffic.bytesSent ++
    ", bytes_received: " ++ toString traffic.bytesReceived ++ " \x7d"

end Traffic

end BaudSwitch
