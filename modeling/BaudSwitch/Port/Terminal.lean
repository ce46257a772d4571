import BaudSwitch.Line
import BaudSwitch.Packet.Receiver

/-!
# Terminals

A port on a line with a stub at its far end.  The stub answers each packet once it is complete;
what it sends waits on the line until it is read.
-/

namespace BaudSwitch

/-- A terminal and the stub behind it. -/
structure Terminal where
  /-- Why a port cannot be opened; none if it is this terminal. -/
  refusal : String → Option String
  /-- How each coming packet is answered; later ones are not. -/
  replies : List (List Arrival)
  line : Line := {}
  /-- Where the stub stands in what it receives. -/
  receiver : Packet.Receiver := .idle
  wire : Bytes := []
  /-- The port as it was opened, with the milliseconds that a read waits. -/
  held : Option (String × UInt64) := none

namespace Terminal

/-- The stub receives octets and answers the packets they complete. -/
def deliver (terminal : Terminal) (bytes : Bytes) : Terminal :=
  let (receiver, items) := terminal.receiver.feed bytes
  let packets := items.countP (· != .acknowledgement)
  { terminal with
    receiver := receiver
    wire := terminal.wire ++ bytes
    replies := terminal.replies.drop packets
    line :=
      { terminal.line with
        arrivals := terminal.line.arrivals ++ (terminal.replies.take packets).flatten } }

def respond (terminal : Terminal) : Call → Response Terminal
  | .connect port baud window =>
      match terminal.refusal port with
      | some reason => { answer := .error (.cannotOpen port reason), port := terminal }
      | none =>
          { answer := .ok []
            notices := [.opened port baud]
            port := { terminal with held := some (port, window) } }
  | .write bytes => { answer := .ok [], port := terminal.deliver bytes }
  | .read limit =>
      let wait := terminal.held.elim 0 fun held => held.2.toNat
      let window := terminal.line.readWindow limit.toNat wait
      { answer := window.result, port := { terminal with line := window.line } }
  | .close =>
      { answer := .ok []
        notices := (terminal.held.map fun held => .closed held.1).toList
        port := { terminal with held := none } }

instance : Answering Terminal := ⟨respond⟩

end Terminal

end BaudSwitch
