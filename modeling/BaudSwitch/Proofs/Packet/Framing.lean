import BaudSwitch.Packet.Reply
import BaudSwitch.Proofs.Hex

/-!
# Framing and noise

An escaped body holds neither mark, so the first start mark of a reply opens the packet and the
next stop mark closes it, whatever noise came before and whatever follows.  Undoing the escapes
of the body then gives the payload, also where payload octets look like escaped ones.
-/

namespace BaudSwitch.Packet

/-! ## Escaping -/

@[simp]
theorem escape_nil : escape [] = [] := rfl

@[simp]
theorem escape_cons (octet : UInt8) (rest : Bytes) :
    escape (octet :: rest) = escapeOctet octet ++ escape rest := rfl

@[simp]
theorem unescape_escapeMark_cons (octet : UInt8) (rest : Bytes) :
    unescape (escapeMark :: octet :: rest) = (octet ^^^ escapeMask) :: unescape rest := by
  rw [unescape, if_pos rfl]

theorem unescape_cons {octet : UInt8} (ordinary : octet ≠ escapeMark) (rest : Bytes) :
    unescape (octet :: rest) = octet :: unescape rest := by
  cases rest with
  | nil => simp [unescape, ordinary]
  | cons next later => rw [unescape, if_neg ordinary]

theorem isReserved_iff (octet : UInt8) :
    isReserved octet = true ↔
      octet = startMark ∨ octet = stopMark ∨ octet = escapeMark := by
  simp [isReserved, or_assoc]

theorem unescape_escapeOctet_append (octet : UInt8) (rest : Bytes) :
    unescape (escapeOctet octet ++ rest) = octet :: unescape rest := by
  by_cases reserved : isReserved octet = true
  · rw [escapeOctet, if_pos reserved, List.cons_append, List.singleton_append,
      unescape_escapeMark_cons, UInt8.xor_assoc, UInt8.xor_self, UInt8.xor_zero]
  · have ordinary : octet ≠ escapeMark := fun equal =>
      reserved ((isReserved_iff octet).mpr (.inr (.inr equal)))
    rw [escapeOctet, if_neg reserved, List.singleton_append, unescape_cons ordinary]

/-- Undoing escapes stays in step with escaping: what follows a whole escaped payload is read
as if it stood alone. -/
theorem unescape_escape_append (payload rest : Bytes) :
    unescape (escape payload ++ rest) = payload ++ unescape rest := by
  induction payload with
  | nil => rfl
  | cons octet payload inductionHypothesis =>
      rw [escape_cons, List.append_assoc, unescape_escapeOctet_append, inductionHypothesis,
        List.cons_append]

@[simp]
theorem unescape_escape (payload : Bytes) : unescape (escape payload) = payload := by
  simpa [unescape] using unescape_escape_append payload []

theorem mark_notMem_escapeOctet {mark : UInt8} (isMark : mark = startMark ∨ mark = stopMark)
    (octet : UInt8) : mark ∉ escapeOctet octet := by
  by_cases reserved : isReserved octet = true
  · rcases isMark with rfl | rfl <;>
      rcases (isReserved_iff octet).mp reserved with rfl | rfl | rfl <;> decide
  · rw [escapeOctet, if_neg reserved, List.mem_singleton]
    intro equal
    subst mark
    exact reserved ((isReserved_iff octet).mpr (isMark.imp_right .inl))

/-- Neither mark stands in an escaped payload. -/
theorem mark_notMem_escape {mark : UInt8} (isMark : mark = startMark ∨ mark = stopMark)
    (payload : Bytes) : mark ∉ escape payload := by
  simp [escape, List.mem_flatMap, mark_notMem_escapeOctet isMark]

theorem stopMark_notMem_escape (payload : Bytes) : stopMark ∉ escape payload :=
  mark_notMem_escape (.inr rfl) payload

/-! ## Finding a packet -/

theorem afterStart?_append {noise : Bytes} (quiet : startMark ∉ noise) (rest : Bytes) :
    afterStart? (noise ++ startMark :: rest) = some rest := by
  induction noise with
  | nil => rw [List.nil_append, afterStart?, if_pos rfl]
  | cons octet noise inductionHypothesis =>
      have ordinary : octet ≠ startMark := fun equal => quiet (by simp [equal])
      have quietTail : startMark ∉ noise := fun membership => quiet (.tail octet membership)
      rw [List.cons_append, afterStart?, if_neg ordinary, inductionHypothesis quietTail]

theorem passes_of_notMem {body : Bytes} (unstopped : stopMark ∉ body) :
    ∀ octet ∈ body, (octet != stopMark) = true := by
  intro octet membership
  exact bne_iff_ne.mpr fun equal => unstopped (equal ▸ membership)

theorem takeWhile_stop {body : Bytes} (unstopped : stopMark ∉ body) (rest : Bytes) :
    (body ++ stopMark :: rest).takeWhile (· != stopMark) = body := by
  rw [List.takeWhile_append_of_pos (passes_of_notMem unstopped)]
  simp

theorem dropWhile_stop {body : Bytes} (unstopped : stopMark ∉ body) (rest : Bytes) :
    (body ++ stopMark :: rest).dropWhile (· != stopMark) = stopMark :: rest := by
  rw [List.dropWhile_append_of_pos (passes_of_notMem unstopped)]
  simp

theorem extract_of_stopped {noise body : Bytes} (quiet : startMark ∉ noise)
    (unstopped : stopMark ∉ body) (rest : Bytes) :
    extract (noise ++ startMark :: (body ++ stopMark :: rest)) = body := by
  rw [extract, afterStart?_append quiet]
  exact takeWhile_stop unstopped rest

theorem trailer_of_stopped {noise body : Bytes} (quiet : startMark ∉ noise)
    (unstopped : stopMark ∉ body) (high low : UInt8) (rest : Bytes) :
    trailer (noise ++ startMark :: (body ++ stopMark :: high :: low :: rest)) =
      (Hex.decodeOctet high low).mapError .hex := by
  rw [trailer, afterStart?_append quiet]
  simp only [dropWhile_stop unstopped]

/-- A reply with a start mark is judged by its trailer. -/
theorem extractVerified_of_started {raw : Bytes} (started : startMark ∈ raw) {received : UInt8}
    (trailed : trailer raw = .ok received) :
    extractVerified raw =
      if received = checksum (unescape (extract raw)) then .ok (extract raw)
      else .error (.mismatch received (checksum (unescape (extract raw)))) := by
  rw [extractVerified, if_pos (List.contains_iff_mem.mpr started), trailed]
  rfl

/-! ## Framing undone -/

@[simp]
theorem frame_ne_acknowledgement (payload : Bytes) : frame payload ≠ acknowledgement := by
  simp [frame, acknowledgement, startMark]

theorem frame_in_noise (noise payload suffix : Bytes) :
    noise ++ frame payload ++ suffix =
      noise ++ startMark :: (escape payload ++ stopMark ::
        Hex.digit (checksum payload / 16) :: Hex.digit (checksum payload % 16) :: suffix) := by
  simp [frame, Hex.encodeOctet]

/-- A packet is read back out of any noise that holds no start mark, and what follows the packet
has no say in it. -/
theorem reply_frame_in_noise (noise payload suffix : Bytes) (quiet : startMark ∉ noise) :
    let raw := noise ++ frame payload ++ suffix
    extract raw = escape payload ∧
      unescape (extract raw) = payload ∧
      trailer raw = .ok (checksum payload) ∧
      extractVerified raw = .ok (extract raw) := by
  intro raw
  have layout : raw = _ := frame_in_noise noise payload suffix
  have extracted : extract raw = escape payload := by
    rw [layout]
    exact extract_of_stopped quiet (stopMark_notMem_escape payload) _
  have undone : unescape (extract raw) = payload := by
    rw [extracted, unescape_escape]
  have trailed : trailer raw = .ok (checksum payload) := by
    rw [layout, trailer_of_stopped quiet (stopMark_notMem_escape payload),
      Hex.decodeOctet_digits]
    rfl
  have started : startMark ∈ raw := by
    simp [layout]
  refine ⟨extracted, undone, trailed, ?_⟩
  rw [extractVerified_of_started started trailed, undone, if_pos rfl]

/-- The payload holds a stop mark, an octet that looks like an escaped one, and an escape mark;
noise stands in front and a second packet behind. -/
theorem reply_frame_in_noise_marks :
    let noise : Bytes := [0x2B, 0x23, 0x7D]
    let payload : Bytes := [0x23, 0x03, 0x7D, 0x5D]
    let raw := noise ++ frame payload ++ frame [0x4F, 0x4B]
    startMark ∉ noise ∧ extract raw = [0x7D, 0x03, 0x03, 0x7D, 0x5D, 0x5D] ∧
      unescape (extract raw) = payload ∧ trailer raw = .ok 0x00 ∧
      extractVerified raw = .ok (extract raw) := by
  have quiet : startMark ∉ ([0x2B, 0x23, 0x7D] : Bytes) := by decide
  exact ⟨quiet, reply_frame_in_noise _ [0x23, 0x03, 0x7D, 0x5D] (frame [0x4F, 0x4B]) quiet⟩

end BaudSwitch.Packet
