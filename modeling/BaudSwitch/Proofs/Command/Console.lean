import BaudSwitch.Proofs.Command.Monitor
import BaudSwitch.Proofs.Packet.Grammar

/-!
# What the monitor prints

The monitor answers with an `O` and the hexadecimal of what it printed.  Reading hexadecimal undoes
writing it, and what it refuses it refuses for the first reason; so an answer is read as output just
where digits stand behind its `O`, and whatever was printed comes back out of its packet.
-/

namespace BaudSwitch

open Hex (encode decode Reading)

theorem consoleOutput?_eq_some_iff {reply output : Bytes} :
    consoleOutput? reply = some output ↔
      ∃ digits, reply = 0x4F :: digits ∧ digits ≠ [] ∧ decode digits = .ok output := by
  constructor
  · intro printed
    cases reply with
    | nil => cases printed
    | cons octet digits =>
        rw [consoleOutput?] at printed
        split at printed
        next marked =>
          obtain ⟨rfl, filled⟩ := marked
          refine ⟨digits, rfl, filled, ?_⟩
          cases read : decode digits with
          | error cause => simp [read, Except.toOption] at printed
          | ok bytes => simpa [read, Except.toOption] using printed
        next => cases printed
  · rintro ⟨digits, rfl, filled, read⟩
    simp [consoleOutput?, filled, read, Except.toOption]

theorem unreserved_printed (output : Bytes) :
    ∀ octet ∈ (0x4F :: encode output : Bytes), Packet.isReserved octet = false := by
  intro octet membership
  rcases List.mem_cons.mp membership with rfl | digit
  · decide
  · exact isReserved_of_isLower (isLower_of_mem_encode digit)

theorem encode_ne_nil {output : Bytes} (filled : output ≠ []) : encode output ≠ [] := by
  intro empty
  apply filled
  simpa using congrArg List.length empty

/-- Framing leaves an answer as it is, so its digits are read where they were written. -/
theorem consoleOutput?_of_printed {output : Bytes} (filled : output ≠ []) :
    consoleOutput? (Packet.extract (Packet.frame (0x4F :: encode output))) = some output := by
  have intact : Packet.extract (Packet.frame (0x4F :: encode output)) = 0x4F :: encode output := by
    simp only [Packet.extract_frame, escape_of_unreserved (unreserved_printed output)]
  apply consoleOutput?_eq_some_iff.mpr
  exact ⟨encode output, intact, encode_ne_nil filled, Hex.decode_encode output⟩

/-- Reading undoes writing, and says of every run of octets what is to be said of it, nothing else.
A reply is output where digits follow its `O`, and output in its packet is read back. -/
theorem output_read_back :
    (∀ bytes, decode (encode bytes) = .ok bytes) ∧
    (∀ run result, decode run = result ↔ Reading run result) ∧
    (∀ reply output, consoleOutput? reply = some output ↔
      ∃ digits, reply = 0x4F :: digits ∧ digits ≠ [] ∧ decode digits = .ok output) ∧
    ∀ output, output ≠ [] →
      consoleOutput? (Packet.extract (Packet.frame (0x4F :: encode output))) = some output :=
  ⟨Hex.decode_encode, fun _ _ => Hex.decode_eq_iff, fun _ _ => consoleOutput?_eq_some_iff,
    fun _ => consoleOutput?_of_printed⟩

/-- Digits in both cases; a run of odd length that begins with no digit; one whose second octet is
none; and three octets printed. -/
theorem output_read_back_mixed :
    let output : Bytes := [0x4F, 0x4B, 0xAB]
    decode (Bytes.ascii "4f4BaB") = .ok output ∧
      Reading (Bytes.ascii "4f4BaB") (.ok output) ∧
      Reading (Bytes.ascii "z4f") (.error (.oddLength 3)) ∧
      Reading (Bytes.ascii "4z_f") (.error (.invalidDigit 0x7A)) ∧
      output ≠ [] ∧
      consoleOutput? (Packet.extract (Packet.frame (0x4F :: encode output))) = some output := by
  intro output
  obtain ⟨-, judged, -, printed⟩ := output_read_back
  have spelled : decode (Bytes.ascii "4f4BaB") = .ok output := by decide
  have odd : decode (Bytes.ascii "z4f") = .error (.oddLength 3) := by decide
  have stray : decode (Bytes.ascii "4z_f") = .error (.invalidDigit 0x7A) := by decide
  have filled : output ≠ [] := List.cons_ne_nil _ _
  exact ⟨spelled, (judged _ _).mp spelled, (judged _ _).mp odd, (judged _ _).mp stray, filled,
    printed output filled⟩

/-- The plain answer that all went well is no output. -/
example : consoleOutput? (Bytes.ascii "OK") = none := by decide

end BaudSwitch
