import BaudSwitch.Packet.Receiver
import BaudSwitch.Proofs.Packet.Framing

/-!
# Streams read back

The far end finds the items of a stream again, with nothing but the octets to go by.  An item
leaves an idle receiver idle, so the items behind it are read as if they stood alone; and since a
receiver keeps its place between two chunks, where the stream was cut has no say in it.
-/

namespace BaudSwitch.Packet

namespace Receiver

/-- Take a stream chunk by chunk, and hand over the items that its octets complete. -/
def feedChunks : Receiver → List Bytes → Receiver × List Item
  | receiver, [] => (receiver, [])
  | receiver, chunk :: later =>
      let (next, items) := receiver.feed chunk
      let (last, others) := next.feedChunks later
      (last, items ++ others)

theorem feedChunks_eq (receiver : Receiver) (chunks : List Bytes) :
    receiver.feedChunks chunks = receiver.feed chunks.flatten := by
  induction chunks generalizing receiver with
  | nil => rfl
  | cons chunk later inductionHypothesis =>
      rw [List.flatten_cons, feed_append, ← inductionHypothesis]
      rfl

theorem feed_cons (receiver : Receiver) (octet : UInt8) (rest : Bytes) :
    receiver.feed (octet :: rest) =
      (((receiver.step octet).1.feed rest).1,
        (receiver.step octet).2.toList ++ ((receiver.step octet).1.feed rest).2) := rfl

/-- Every octet but a stop mark belongs to the body it is read in, start marks and plus signs
included. -/
theorem feed_body {content : Bytes} (unstopped : stopMark ∉ content) (reversed : Bytes) :
    (body reversed).feed content = (body (content.reverse ++ reversed), []) := by
  induction content generalizing reversed with
  | nil => rfl
  | cons octet content inductionHypothesis =>
      have kept : (body reversed).step octet = (body (octet :: reversed), none) := by
        apply if_neg
        intro stopped
        exact unstopped (stopped ▸ List.mem_cons_self)
      have unstoppedTail : stopMark ∉ content :=
        fun membership => unstopped (.tail octet membership)
      rw [feed_cons, kept, inductionHypothesis unstoppedTail, List.reverse_cons,
        List.append_assoc]
      rfl

/-- What stands behind a stop mark is counted, not looked at. -/
theorem feed_closing (reversed : Bytes) (high low : UInt8) :
    (body reversed).feed [stopMark, high, low] =
      (idle, [.packet (unescape reversed.reverse)]) := rfl

theorem feed_frame (payload : Bytes) :
    idle.feed (frame payload) = (idle, [.packet payload]) := by
  have opened (rest : Bytes) : idle.feed (startMark :: rest) = (body []).feed rest := rfl
  have kept : (body []).feed (escape payload) = (body (escape payload).reverse, []) := by
    rw [feed_body (stopMark_notMem_escape payload), List.append_nil]
  rw [frame, opened, feed_append, kept, Hex.encodeOctet]
  simp only [feed_closing, List.reverse_reverse, unescape_escape, List.nil_append]

theorem feed_encode (item : Item) : idle.feed item.encode = (idle, [item]) := by
  cases item with
  | acknowledgement => rfl
  | packet payload => exact feed_frame payload

/-- An idle receiver reads a stream of items back, and is idle again at its end. -/
theorem feed_encodings (items : List Item) :
    idle.feed (items.flatMap Item.encode) = (idle, items) := by
  induction items with
  | nil => rfl
  | cons item later inductionHypothesis =>
      rw [List.flatMap_cons, feed_append, feed_encode, inductionHypothesis]
      rfl

theorem feedChunks_encodings {items : List Item} {chunks : List Bytes}
    (cut : chunks.flatten = items.flatMap Item.encode) :
    idle.feedChunks chunks = (idle, items) := by
  rw [feedChunks_eq, cut]
  exact feed_encodings items

end Receiver

/-- Two lists of items never make the same stream. -/
theorem flatMap_encode_injective :
    Function.Injective fun items : List Item => items.flatMap Item.encode := by
  intro first second same
  have read := congrArg Receiver.idle.feed same
  simp only [Receiver.feed_encodings] at read
  exact congrArg Prod.snd read

end BaudSwitch.Packet
