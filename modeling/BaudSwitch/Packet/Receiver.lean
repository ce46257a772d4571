import BaudSwitch.Packet

/-!
# Receiving a stream

The far end sees no boundaries between writes.  It reads octet by octet: outside a packet `+`
is an acknowledgement and a start mark opens a packet; a packet is complete two octets after
its stop mark.
-/

namespace BaudSwitch.Packet

inductive Item where
  | acknowledgement
  | packet (payload : Bytes)
  deriving DecidableEq, Repr

def Item.encode : Item → Bytes
  | .acknowledgement => Packet.acknowledgement
  | .packet payload => frame payload

/-- Where a receiver stands between two octets. -/
inductive Receiver where
  | idle
  /-- Inside a body, which is kept in reverse. -/
  | body (reversed : Bytes)
  /-- Behind the stop mark of a body. -/
  | trailer (content : Bytes)
  /-- Behind the first digit. -/
  | lastDigit (content : Bytes)
  deriving DecidableEq, Repr

namespace Receiver

/-- Take one octet, and hand over the item it completes. -/
def step : Receiver → UInt8 → Receiver × Option Item
  | .idle, octet =>
      if octet = startMark then (.body [], none)
      else if octet = 0x2B then (.idle, some .acknowledgement)
      else (.idle, none)
  | .body reversed, octet =>
      if octet = stopMark then (.trailer reversed.reverse, none)
      else (.body (octet :: reversed), none)
  | .trailer content, _ => (.lastDigit content, none)
  | .lastDigit content, _ => (.idle, some (.packet (unescape content)))

/-- Take many octets, and hand over the items they complete. -/
def feed : Receiver → Bytes → Receiver × List Item
  | receiver, [] => (receiver, [])
  | receiver, octet :: rest =>
      let (next, item?) := receiver.step octet
      let (last, items) := next.feed rest
      (last, item?.toList ++ items)

theorem feed_append (receiver : Receiver) (first second : Bytes) :
    receiver.feed (first ++ second) =
      (((receiver.feed first).1.feed second).1,
        (receiver.feed first).2 ++ ((receiver.feed first).1.feed second).2) := by
  induction first generalizing receiver with
  | nil => simp [feed]
  | cons octet rest inductionHypothesis =>
      simp [feed, inductionHypothesis]

end Receiver

end BaudSwitch.Packet
