import BaudSwitch.Port.Terminal
import BaudSwitch.Proofs.Line.Delivery
import BaudSwitch.Proofs.Packet.Stream
import BaudSwitch.Proofs.Port.Script
import BaudSwitch.Settings

/-!
# Answers of a terminal

Whoever speaks to a stub in turns, one packet and then one window, gets each reply in the window
behind its packet.  So if the replies are promised in time, such a conversation is served by a
terminal just as it is served by a script, however the replies are cut.
-/

namespace BaudSwitch

/-! ## Conversations in turns -/

/-- Whose turn it is. -/
inductive Phase where
  /-- Nobody holds the port. -/
  | vacant
  | held
  /-- A packet went out, and its reply was not read yet. -/
  | asked
  deriving DecidableEq, Repr

/-- The calls that keep to the turns on a line with these settings. -/
inductive Admits (line : LineSettings) : Phase → Call → Phase → Prop where
  | opening {phase : Phase} (unasked : phase ≠ .asked) (baud : UInt32) :
      Admits line phase (.connect line.port baud line.readTimeout) .held
  | acknowledging : Admits line .held (.write Packet.acknowledgement) .held
  | asking (payload : Bytes) : Admits line .held (.write (Packet.frame payload)) .asked
  | reading : Admits line .asked (.read line.maxResponse) .held
  | closing : Admits line .held .close .vacant

/-- All calls keep to the turns, up to the first that fails. What follows a failed call is left
open. -/
inductive Converses (line : LineSettings) : Phase → List Exchange → Phase → Prop where
  | done (phase : Phase) : Converses line phase [] phase
  | succeeded {phase next last : Phase} {request : Call} {rest : List Exchange}
      (admitted : Admits line phase request next) (echo : Bytes)
      (onward : Converses line next rest last) :
      Converses line phase ((request, .ok echo) :: rest) last
  | failed {phase next last : Phase} {request : Call} {rest : List Exchange}
      (admitted : Admits line phase request next) (cause : PortError) :
      Converses line phase ((request, .error cause) :: rest) last

theorem Admits.converses {line : LineSettings} {phase next : Phase} {request : Call}
    (admitted : Admits line phase request next) (answer : Answer) :
    Converses line phase [(request, answer)] next := by
  cases answer with
  | ok echo => exact .succeeded admitted echo (.done next)
  | error cause => exact .failed admitted cause

theorem Converses.trans {line : LineSettings} {phase middle last : Phase}
    {first second : List Exchange} (earlier : Converses line phase first middle)
    (later : Converses line middle second last) : Converses line phase (first ++ second) last := by
  induction earlier with
  | done phase => exact later
  | succeeded admitted echo onward inductionHypothesis =>
      exact .succeeded admitted echo (inductionHypothesis later)
  | failed admitted cause => exact .failed admitted cause

/-! ## The stub and its line -/

/-- Behind a packet, what is promised next is on its way: the next reply, or else silence. -/
theorem Promised.asked {limit window : Nat} {lapses : List Nat} {replies : List Bytes}
    {deliveries : List (List Arrival)} (timed : 0 < window)
    (promised : Promised limit window lapses replies deliveries) :
    Promised limit window lapses (replies.getD 0 [] :: replies.drop 1)
      ((deliveries.take 1).flatten :: deliveries.drop 1) := by
  cases promised with
  | none lapses =>
      refine .silence ?_ ?_ (.none _)
      · simp [Silent]
      · simpa [InTime] using timed
  | silence silent inTime rest => simpa using Promised.silence silent inTime rest
  | reply whole chunked inTime rest => simpa using Promised.reply whole chunked inTime rest

namespace Terminal

/-- Every coming window of this size brings one of these replies, if it is asked for. -/
def Owes (terminal : Terminal) (line : LineSettings) : Phase → List Bytes → Prop
  | .asked, replies =>
      Promised line.maxResponse.toNat line.readTimeout.toNat terminal.line.clock.lapses
        (replies.getD 0 [] :: replies.drop 1) (terminal.line.arrivals :: terminal.replies)
  | _, replies =>
      terminal.line.arrivals = [] ∧
        Promised line.maxResponse.toNat line.readTimeout.toNat terminal.line.clock.lapses
          replies terminal.replies

/-- The terminal can be opened, hears what is sent from its beginning, and owes these replies. -/
structure Ready (terminal : Terminal) (line : LineSettings) (phase : Phase)
    (replies : List Bytes) : Prop where
  reachable : terminal.refusal line.port = none
  idle : terminal.receiver = .idle
  waits : phase ≠ .vacant → ∃ port, terminal.held = some (port, line.readTimeout)
  owes : terminal.Owes line phase replies

variable {terminal : Terminal} {line : LineSettings} {phase next : Phase} {replies : List Bytes}
  {request : Call}

theorem owes_of_unasked (unasked : phase ≠ .asked) :
    terminal.Owes line phase replies ↔ terminal.Owes line .held replies := by
  cases phase with
  | asked => exact absurd rfl unasked
  | _ => rfl

theorem deliver_acknowledgement (idle : terminal.receiver = .idle) :
    terminal.deliver Packet.acknowledgement =
      { terminal with wire := terminal.wire ++ Packet.acknowledgement } := by
  have heard := Packet.Receiver.feed_encode .acknowledgement
  rw [Packet.Item.encode] at heard
  simp [deliver, idle, heard]

theorem deliver_frame (idle : terminal.receiver = .idle) (payload : Bytes) :
    terminal.deliver (Packet.frame payload) =
      { terminal with
        wire := terminal.wire ++ Packet.frame payload
        replies := terminal.replies.drop 1
        line :=
          { terminal.line with
            arrivals := terminal.line.arrivals ++ (terminal.replies.take 1).flatten } } := by
  simp [deliver, idle, Packet.Receiver.feed_frame]

/-- A call in its turn succeeds and brings what a script with the same replies brings, and the
terminal is ready for the next turn. -/
theorem Ready.respond (timed : line.readTimeout ≠ 0) (limited : line.maxResponse ≠ 0)
    (ready : terminal.Ready line phase replies) (admitted : Admits line phase request next) :
    (terminal.respond request).answer = .ok (request.brings replies) ∧
      (terminal.respond request).port.Ready line next (request.leaves replies) := by
  obtain ⟨reachable, idle, waits, owes⟩ := ready
  cases admitted with
  | opening unasked baud =>
      have opened : terminal.respond (.connect line.port baud line.readTimeout) =
          { answer := .ok []
            notices := [.opened line.port baud]
            port := { terminal with held := some (line.port, line.readTimeout) } } := by
        simp only [Terminal.respond, reachable]
      rw [opened]
      exact ⟨rfl, reachable, idle, fun _ => ⟨_, rfl⟩, (owes_of_unasked unasked).mp owes⟩
  | closing => exact ⟨rfl, reachable, idle, fun held => absurd rfl held, owes⟩
  | acknowledging =>
      rw [Terminal.respond, deliver_acknowledgement idle]
      exact ⟨rfl, reachable, idle, waits, owes⟩
  | asking payload =>
      obtain ⟨quiet, promised⟩ := owes
      rw [Terminal.respond, deliver_frame idle, quiet, List.nil_append]
      refine ⟨rfl, reachable, idle, fun _ => waits nofun, ?_⟩
      exact promised.asked (UInt64.pos_iff_ne_zero.mpr timed)
  | reading =>
      obtain ⟨port, held⟩ := waits nofun
      have room : 0 < line.maxResponse.toNat := UInt64.pos_iff_ne_zero.mpr limited
      obtain ⟨fits, returned, emptied, promised⟩ :=
        Line.readWindow_promised (Nat.ne_of_gt room) owes
      simp only [Terminal.respond, held, Option.elim_some]
      refine ⟨?_, reachable, idle, fun _ => ⟨port, rfl⟩, emptied, promised⟩
      rw [returned, Call.brings, List.take_of_length_le fits]

/-- A conversation that keeps to the turns is served by a terminal as it is by a script. -/
theorem Ready.served {last : Phase} {exchanges : List Exchange} (timed : line.readTimeout ≠ 0)
    (limited : line.maxResponse ≠ 0) (ready : terminal.Ready line phase replies)
    (converses : Converses line phase exchanges last)
    (answered : Dialogue.Answered terminal exchanges) : Served replies exchanges := by
  induction converses generalizing terminal replies with
  | done phase => trivial
  | succeeded admitted echo onward inductionHypothesis =>
      obtain ⟨brought, readyNext⟩ := ready.respond timed limited admitted
      exact ⟨answered.1.trans brought, inductionHypothesis readyNext answered.2⟩
  | failed admitted cause =>
      obtain ⟨brought, -⟩ := ready.respond timed limited admitted
      cases answered.1.trans brought

theorem wire_respond :
    (terminal.respond request).port.wire = terminal.wire ++
      (Exchange.written? (request, (terminal.respond request).answer)).getD [] := by
  cases request with
  | connect port baud window =>
      rw [Terminal.respond]
      split <;> simp [Exchange.written?]
  | write bytes => simp [Terminal.respond, deliver, Exchange.written?]
  | read limit => simp [Terminal.respond, Exchange.written?]
  | close => simp [Terminal.respond, Exchange.written?]

/-- What a stub receives is what was written, in order. -/
theorem wire_portAfter {exchanges : List Exchange}
    (answered : Dialogue.Answered terminal exchanges) :
    (Dialogue.portAfter terminal exchanges).wire =
      terminal.wire ++ (exchanges.filterMap Exchange.written?).flatten := by
  induction exchanges generalizing terminal with
  | nil => simp [Dialogue.portAfter]
  | cons exchange rest inductionHypothesis =>
      obtain ⟨request, answer⟩ := exchange
      obtain ⟨same, onward⟩ := answered
      change answer = (terminal.respond request).answer at same
      change Dialogue.Answered (terminal.respond request).port rest at onward
      have step : Dialogue.portAfter terminal ((request, answer) :: rest) =
          Dialogue.portAfter (terminal.respond request).port rest := rfl
      rw [step, inductionHypothesis onward, wire_respond, ← same, List.append_assoc]
      cases written : Exchange.written? (request, answer) <;> simp [written]

end Terminal

end BaudSwitch
