import BaudSwitch.Proofs.Handshake.Accounts
import BaudSwitch.Proofs.Port.Script

/-!
# Books of a session

A session is opened, worked with in any order, and closed.  What its close hands over counts what
crossed the line, no matter which of the operations failed: a write that succeeded counts although
the read behind it failed, a reply counts its octets although it is dropped, and a write that
failed counts for nothing.
-/

namespace BaudSwitch.Session

open Work

/-- What can be done with an open session. -/
inductive Operation where
  | send (command : Command)
  | receive
  | request (command : Command)
  | acknowledge
  deriving DecidableEq, Repr

/-- An operation with what came of it. -/
abbrev Outcome := Operation × Except PortError (Option Bytes)

namespace Operation

/-- The work of an operation. Only one that reads brings a payload. -/
def work : Operation → SessionM (Option Bytes)
  | .send command => do
      Session.send command
      return none
  | .receive => return some (← Session.receive)
  | .request command => return some (← Session.request command)
  | .acknowledge => do
      Session.acknowledge
      return none

/-- The operation writes the packet of this command. -/
def Sends (command : Command) : Operation → Prop
  | .send sent | .request sent => sent = command
  | _ => False

end Operation

namespace Outcome

/-- An acknowledgement went out. -/
def acknowledged : Outcome → Bool
  | (.acknowledge, .ok _) => true
  | _ => false

/-- A reply said something. -/
def answered : Outcome → Bool
  | (_, .ok (some body)) => body != []
  | _ => false

end Outcome

/-- Do one operation after another, whatever comes of each. -/
def workInTurn : List Operation → Session → Dialogue (List Outcome × Session)
  | [], session => return ([], session)
  | operation :: later, session => do
      let (result, middle) ← operation.work session
      let (outcomes, last) ← workInTurn later middle
      return ((operation, result) :: outcomes, last)

/-- Open a port, work on it, and close it. The value is what came of the work and of the close. -/
def lifetime (options : Options) (operations : List Operation) :
    Dialogue (Except PortError (List Outcome × Except PortError Traffic)) := do
  match ← connect options with
  | .ok session => do
      let (outcomes, last) ← workInTurn operations session
      let books ← last.close
      return .ok (outcomes, books)
  | .error cause => return .error cause

/-! ## One operation -/

/-- Courses of an operation. -/
inductive Does (session : Session) :
    Operation → List Exchange → Except PortError (Option Bytes) → Session → Prop where
  | sends {command exchanges result after}
      (course : session.Writes (packet command) (.packet (packet command).length) exchanges result
        after) :
      Does session (.send command) exchanges (result.map fun _ => none) after
  | unread (cause : PortError) :
      Does session .receive [(.read session.maxResponse, .error cause)] (.error cause) session
  | received (raw : Bytes) :
      Does session .receive [(.read session.maxResponse, .ok raw)]
        (.ok (some (said session.verifyChecksums raw))) (session.heard raw)
  | requests {command exchanges result after}
      (course : session.Requests command exchanges result after) :
      Does session (.request command) exchanges (result.map some) after
  | acknowledges {exchanges result after}
      (course : session.Acknowledges exchanges result after) :
      Does session .acknowledge exchanges (result.map fun _ => none) after

variable {session after : Session} {operation : Operation} {operations later : List Operation}
  {exchanges : List Exchange} {outcomes : List Outcome}

/-- Work whose value is only looked at ends as it did before. -/
theorem performs_bind_pure_iff {First Second : Type} {work : SessionM First}
    {view : First → Second} {result : Except PortError Second} :
    Performs (work >>= fun value => pure (view value)) session exchanges result after ↔
      ∃ ended, result = ended.map view ∧ Performs work session exchanges ended after := by
  rw [performs_bind_iff]
  constructor
  · rintro (⟨cause, rfl, course⟩ | ⟨value, middle, earlier, _, rfl, course, ending⟩)
    · exact ⟨.error cause, rfl, course⟩
    · obtain ⟨rfl, rfl, rfl⟩ := performs_pure_iff.mp ending
      rw [List.append_nil]
      exact ⟨.ok value, rfl, course⟩
  · rintro ⟨cause | value, rfl, course⟩
    · exact .inl ⟨cause, rfl, course⟩
    · exact .inr ⟨value, after, exchanges, [], (List.append_nil _).symm, course,
        performs_pure_iff.mpr ⟨rfl, rfl, rfl⟩⟩

theorem does_of_performs {result : Except PortError (Option Bytes)}
    (course : Performs operation.work session exchanges result after) :
    session.Does operation exchanges result after := by
  cases operation with
  | send command =>
      obtain ⟨ended, rfl, sending⟩ := performs_bind_pure_iff.mp course
      exact .sends (writes_of_performs_send sending)
  | receive =>
      obtain ⟨ended, rfl, reading⟩ := performs_bind_pure_iff.mp course
      rcases performs_receive reading with ⟨cause, rfl, rfl, rfl⟩ | ⟨raw, rfl, rfl, rfl⟩
      · exact .unread cause
      · exact .received raw
  | request command =>
      obtain ⟨ended, rfl, asking⟩ := performs_bind_pure_iff.mp course
      exact .requests (requests_of_performs asking)
  | acknowledge =>
      obtain ⟨ended, rfl, acking⟩ := performs_bind_pure_iff.mp course
      exact .acknowledges (acknowledges_of_performs acking)

/-! ## What is recorded of it -/

/-- Work on a session with this limit, of these operations, may make the exchange. -/
def Belongs (limit : UInt64) (operations : List Operation) : Exchange → Prop
  | (.write bytes, _) =>
      bytes = Packet.acknowledgement ∨
        ∃ command, (∃ operation ∈ operations, operation.Sends command) ∧ bytes = packet command
  | (.read asked, _) => asked = limit
  | _ => False

@[simp]
theorem belongs_acknowledgement (limit : UInt64) (operations : List Operation) (answer : Answer) :
    Belongs limit operations (.write Packet.acknowledgement, answer) := .inl rfl

@[simp]
theorem belongs_read (limit : UInt64) (operations : List Operation) (answer : Answer) :
    Belongs limit operations (.read limit, answer) := rfl

@[simp]
theorem belongs_send (limit : UInt64) (command : Command) (answer : Answer) :
    Belongs limit [.send command] (.write (packet command), answer) :=
  .inr ⟨command, ⟨_, List.mem_singleton_self _, rfl⟩, rfl⟩

@[simp]
theorem belongs_request (limit : UInt64) (command : Command) (answer : Answer) :
    Belongs limit [.request command] (.write (packet command), answer) :=
  .inr ⟨command, ⟨_, List.mem_singleton_self _, rfl⟩, rfl⟩

theorem Belongs.mono {limit : UInt64} {some all : List Operation} {exchange : Exchange}
    (part : ∀ operation ∈ some, operation ∈ all) (belongs : Belongs limit some exchange) :
    Belongs limit all exchange := by
  rcases exchange with ⟨_ | bytes | asked | _, answer⟩
  case write =>
    exact belongs.imp_right fun ⟨command, ⟨operation, inside, sends⟩, same⟩ =>
      ⟨command, ⟨operation, part operation inside, sends⟩, same⟩
  all_goals exact belongs

/-- The session lived through these exchanges while these outcomes came about. -/
structure Records (session : Session) (exchanges : List Exchange) (outcomes : List Outcome)
    (after : Session) : Prop where
  grows : session.Grows exchanges after
  belongs : ∀ exchange ∈ exchanges,
    Belongs session.maxResponse (outcomes.map Prod.fst) exchange
  acknowledged : (exchanges.filterMap Exchange.written?).count Packet.acknowledgement =
    outcomes.countP Outcome.acknowledged
  answered : (exchanges.filterMap Exchange.taken?).countP
    (said session.verifyChecksums · ≠ []) = outcomes.countP Outcome.answered

theorem records_nothing (session : Session) : session.Records [] [] session :=
  ⟨⟨rfl, rfl, rfl, rfl⟩, by simp, rfl, rfl⟩

theorem Records.trans {middle last : Session} {earlier later : List Exchange}
    {first second : List Outcome} (begun : session.Records earlier first middle)
    (onward : middle.Records later second last) :
    session.Records (earlier ++ later) (first ++ second) last where
  grows := begun.grows.trans onward.grows
  belongs := by
    intro exchange membership
    rw [List.map_append]
    rcases List.mem_append.mp membership with early | late
    · exact (begun.belongs exchange early).mono fun _ => List.mem_append_left _
    · have belongs := onward.belongs exchange late
      rw [begun.grows.maxResponse] at belongs
      exact belongs.mono fun _ => List.mem_append_right _
  acknowledged := by
    rw [List.filterMap_append, List.count_append, List.countP_append, begun.acknowledged,
      onward.acknowledged]
  answered := by
    have later := onward.answered
    rw [begun.grows.verifyChecksums] at later
    rw [List.filterMap_append, List.countP_append, List.countP_append, begun.answered, later]

theorem count_packet (command : Command) : [packet command].count Packet.acknowledgement = 0 := by
  apply List.count_eq_zero.mpr
  intro membership
  exact Packet.frame_ne_acknowledgement _ (List.mem_singleton.mp membership).symm

theorem countP_said (verify : Bool) (raw : Bytes) (operation : Operation) :
    [raw].countP (said verify · ≠ []) =
      [((operation, .ok (some (said verify raw))) : Outcome)].countP Outcome.answered := by
  by_cases silent : said verify raw = [] <;> simp [Outcome.answered, silent]

theorem Does.records {result : Except PortError (Option Bytes)}
    (course : session.Does operation exchanges result after) :
    session.Records exchanges [(operation, result)] after := by
  cases course with
  | @sends command _ _ _ course =>
      cases course with
      | failed cause => exact ⟨grows_unwritten session _ cause, by simp, rfl, rfl⟩
      | written echo => exact ⟨grows_sent session command echo, by simp, count_packet command, rfl⟩
  | unread cause => exact ⟨⟨rfl, rfl, rfl, rfl⟩, by simp, rfl, rfl⟩
  | received raw => exact ⟨grows_heard session raw, by simp, rfl, countP_said _ raw _⟩
  | @requests command _ _ _ course =>
      have grown := course.grows
      cases course with
      | unsent cause => exact ⟨grown, by simp, rfl, rfl⟩
      | unread echo cause => exact ⟨grown, by simp, count_packet command, rfl⟩
      | answered echo raw => exact ⟨grown, by simp, count_packet command, countP_said _ raw _⟩
  | acknowledges course =>
      cases course with
      | failed cause => exact ⟨grows_unwritten session _ cause, by simp, rfl, rfl⟩
      | written echo => exact ⟨grows_acknowledged session echo, by simp, rfl, rfl⟩

/-- An operation that fails at its write leaves the session as it was. -/
theorem Does.unchanged {result : Except PortError (Option Bytes)}
    (course : session.Does operation exchanges result after) {bytes : Bytes} {cause : PortError}
    (unwritten : (.write bytes, .error cause) ∈ exchanges) : after = session := by
  cases course with
  | sends course =>
      cases course with
      | failed => rfl
      | written => simp at unwritten
  | unread => rfl
  | received => simp at unwritten
  | requests course =>
      cases course with
      | unsent => rfl
      | unread => simp at unwritten
      | answered => simp at unwritten
  | acknowledges course =>
      cases course with
      | failed => rfl
      | written => simp at unwritten

theorem records_of_yields
    (course : (workInTurn operations session).Yields exchanges (outcomes, after)) :
    session.Records exchanges outcomes after ∧ outcomes.map Prod.fst = operations := by
  induction operations generalizing session exchanges outcomes with
  | nil =>
      obtain ⟨rfl, ended⟩ := Dialogue.yields_done_iff.mp course
      cases ended
      exact ⟨records_nothing _, rfl⟩
  | cons operation later inductionHypothesis =>
      obtain ⟨⟨result, middle⟩, now, _, rfl, working, more⟩ := Dialogue.yields_bind_iff.mp course
      obtain ⟨⟨others, last⟩, rest, _, rfl, going, ending⟩ := Dialogue.yields_bind_iff.mp more
      obtain ⟨rfl, ended⟩ := Dialogue.yields_done_iff.mp ending
      cases ended
      obtain ⟨recorded, same⟩ := inductionHypothesis going
      rw [List.append_nil]
      exact ⟨(does_of_performs working).records.trans recorded, congrArg (operation :: ·) same⟩

/-! ## From opening to close -/

/-- The session that a port opened so begins with. -/
def Options.fresh (options : Options) : Session where
  baud := options.baud
  maxResponse := options.maxResponse
  verifyChecksums := options.verifyChecksums

/-- Courses of a lifetime: without a port nothing is done, and the close ends it in any case. -/
inductive Lives (options : Options) (operations : List Operation) :
    List Exchange → Except PortError (List Outcome × Except PortError Traffic) → Prop where
  | refused (cause : PortError) :
      Lives options operations
        [(.connect options.port options.baud options.window, .error cause)] (.error cause)
  | lived {exchanges outcomes last} (echo : Bytes) (farewell : Answer)
      (recorded : options.fresh.Records exchanges outcomes last)
      (same : outcomes.map Prod.fst = operations) :
      Lives options operations
        ((.connect options.port options.baud options.window, .ok echo) :: exchanges ++
          [(.close, farewell)])
        (.ok (outcomes, farewell.map fun _ => last.traffic))

theorem lives_of_yields {options : Options}
    {value : Except PortError (List Outcome × Except PortError Traffic)}
    (course : (lifetime options operations).Yields exchanges value) :
    Lives options operations exchanges value := by
  obtain ⟨opened, earlier, later, rfl, opening, onward⟩ := Dialogue.yields_bind_iff.mp course
  obtain ⟨answer, _, rfl, answered⟩ := Dialogue.yields_call_iff.mp opening
  cases answer with
  | error cause =>
      obtain ⟨rfl, rfl⟩ := Dialogue.yields_done_iff.mp answered
      obtain ⟨rfl, rfl⟩ := Dialogue.yields_done_iff.mp onward
      exact .refused cause
  | ok echo =>
      obtain ⟨rfl, rfl⟩ := Dialogue.yields_done_iff.mp answered
      obtain ⟨⟨outcomes, last⟩, working, _, rfl, worked, ending⟩ :=
        Dialogue.yields_bind_iff.mp onward
      obtain ⟨books, _, _, rfl, closing, returning⟩ := Dialogue.yields_bind_iff.mp ending
      obtain ⟨rfl, rfl⟩ := Dialogue.yields_done_iff.mp returning
      obtain ⟨farewell, _, rfl, closed⟩ := Dialogue.yields_call_iff.mp closing
      obtain ⟨recorded, same⟩ := records_of_yields worked
      rw [List.append_nil]
      cases farewell with
      | error cause =>
          obtain ⟨rfl, rfl⟩ := Dialogue.yields_done_iff.mp closed
          exact .lived echo (.error cause) recorded same
      | ok goodbye =>
          obtain ⟨rfl, rfl⟩ := Dialogue.yields_done_iff.mp closed
          exact .lived echo (.ok goodbye) recorded same

/-- The books of a session that was just opened count what crossed the line since. -/
theorem Records.traffic {options : Options} {last : Session}
    (recorded : options.fresh.Records exchanges outcomes last) :
    last.traffic = Traffic.counted options.verifyChecksums
      (exchanges.filterMap Exchange.written?) (exchanges.filterMap Exchange.taken?) := by
  rw [recorded.grows.traffic, ← Traffic.tally_eq_counted]
  exact Traffic.empty_add _

section Lifetime

variable {options : Options} {value : Except PortError (List Outcome × Except PortError Traffic)}

theorem Lives.closes (course : Lives options operations exchanges value) {goodbye : Bytes}
    (closed : (.close, .ok goodbye) ∈ exchanges) :
    ∃ outcomes traffic, value = .ok (outcomes, .ok traffic) := by
  cases course with
  | refused cause => simp at closed
  | @lived working outcomes last echo farewell recorded same =>
      have unclosed : (.close, .ok goodbye) ∉ working := fun inside => recorded.belongs _ inside
      have said : farewell = .ok goodbye := by
        simpa [unclosed, eq_comm] using closed
      exact ⟨outcomes, last.traffic, by rw [said]; rfl⟩

/-- Neither the opening nor the close carries octets. -/
theorem Lives.recorded {traffic : Traffic}
    (course : Lives options operations exchanges (.ok (outcomes, .ok traffic))) :
    ∃ working last, options.fresh.Records working outcomes last ∧
      outcomes.map Prod.fst = operations ∧ traffic = last.traffic ∧
      exchanges.filterMap Exchange.written? = working.filterMap Exchange.written? ∧
      exchanges.filterMap Exchange.taken? = working.filterMap Exchange.taken? ∧
      ∀ exchange ∈ working, exchange ∈ exchanges := by
  generalize returned : Except.ok (outcomes, Except.ok traffic) = value at course
  cases course with
  | refused cause => cases returned
  | @lived working outcomes last echo farewell recorded same =>
      cases farewell with
      | error cause => cases returned
      | ok goodbye =>
          cases returned
          refine ⟨working, last, recorded, same, rfl, ?_, ?_, ?_⟩
          · simp [List.filterMap_cons, Exchange.written?]
          · simp [List.filterMap_cons, Exchange.taken?]
          · intro exchange inside
            simp [inside]

end Lifetime

/-- Whatever is done with a session and whatever fails in it, a close that succeeds hands over the
books, and these count just the writes and reads that succeeded between the opening and the close.
An operation that fails at its write changes nothing. -/
theorem close_returns_exact_books :
    (∀ (options : Options) (operations : List Operation) (script : Script),
      let ended := (lifetime options operations).run script
      let written := ended.transcript.writes
      let taken := ended.transcript.calls.filterMap Exchange.taken?
      (∀ farewell, (.close, .ok farewell) ∈ ended.transcript.calls →
        ∃ outcomes traffic, ended.value = .ok (outcomes, .ok traffic)) ∧
      ∀ outcomes traffic, ended.value = .ok (outcomes, .ok traffic) →
        outcomes.map Prod.fst = operations ∧
        traffic.packetsSent = written.countP (· ≠ Packet.acknowledgement) ∧
        (∀ bytes ∈ written, bytes = Packet.acknowledgement ∨
          ∃ command, (∃ operation ∈ operations, operation.Sends command) ∧
            bytes = Packet.frame command.payload) ∧
        traffic.acksSent = outcomes.countP Outcome.acknowledged ∧
        traffic.bytesSent = (written.map List.length).sum ∧
        traffic.bytesReceived = (taken.map List.length).sum ∧
        (∀ raw ∈ taken, raw.length ≤ options.maxResponse.toNat) ∧
        traffic.packetsReceived = outcomes.countP Outcome.answered) ∧
    ∀ {Port : Type} [Answering Port] (operation : Operation) (session : Session) (port : Port)
      (bytes : Bytes) (cause : PortError),
      let ended := (operation.work session).run port
      (.write bytes, .error cause) ∈ ended.transcript.calls → ended.value.2 = session := by
  constructor
  · intro options operations script ended written taken
    have course : Lives options operations ended.transcript.calls ended.value :=
      lives_of_yields (Dialogue.yields_run (lifetime options operations) script)
    refine ⟨fun farewell => course.closes, ?_⟩
    intro outcomes traffic returned
    rw [returned] at course
    obtain ⟨working, last, recorded, same, rfl, wrote, took, part⟩ := course.recorded
    have writes : written = working.filterMap Exchange.written? :=
      (Transcript.writes_eq _).trans wrote
    have reads : taken = working.filterMap Exchange.taken? := took
    have booked := recorded.traffic
    rw [← writes, ← reads] at booked
    refine ⟨same, by rw [booked]; rfl, ?_, ?_, by rw [booked]; rfl, by rw [booked]; rfl, ?_, ?_⟩
    · intro bytes membership
      rw [writes] at membership
      obtain ⟨exchange, inside, wrote⟩ := List.mem_filterMap.mp membership
      obtain ⟨echo, rfl⟩ := Exchange.written?_eq_some_iff.mp wrote
      exact same ▸ recorded.belongs _ inside
    · rw [booked, ← recorded.acknowledged, ← writes]
      rfl
    · intro raw membership
      rw [reads] at membership
      obtain ⟨exchange, inside, read⟩ := List.mem_filterMap.mp membership
      obtain ⟨limit, rfl⟩ := Exchange.taken?_eq_some_iff.mp read
      have asked : limit = options.maxResponse := recorded.belongs _ inside
      subst asked
      exact Script.length_of_answered (Dialogue.answered_run (lifetime options operations) script)
        (part _ inside)
    · rw [booked, ← recorded.answered, ← reads]
      rfl
  · intro Port _ operation session port bytes cause ended unwritten
    have course : session.Does operation ended.transcript.calls ended.value.1 ended.value.2 :=
      does_of_performs (Dialogue.yields_run (operation.work session) port)
    exact course.unchanged unwritten

/-- One read fails behind its packet, one acknowledgement cannot be written, and one reply is
dropped for its trailer. -/
theorem close_returns_exact_books_faulty :
    let options : Options :=
      { port := "/dev/ttyUSB0", baud := 115200, window := 200, maxResponse := 7
        verifyChecksums := true }
    let operations : List Operation :=
      [.send .querySupported, .request .probe, .receive, .acknowledge, .acknowledge,
        .request .querySupported]
    let script : Script :=
      { replies := [Bytes.ascii "$OK#00", Bytes.ascii "$OK#9a+$"]
        fault := fun kind before =>
          if kind = .read ∧ before = 0 ∨ kind = .write ∧ before = 2 then some (.io "unplugged")
          else none }
    let ended := (lifetime options operations).run script
    let traffic : Traffic :=
      { packetsSent := 3, packetsReceived := 1, acksSent := 1, bytesSent := 33
        bytesReceived := 13 }
    let unwritable : Script :=
      { replies := [], fault := fun _ _ => some (.io "unplugged") }
    let attempt := (Operation.acknowledge.work options.fresh).run unwritable
    (∃ outcomes, ended.value = .ok (outcomes, .ok traffic) ∧
      traffic.packetsSent = ended.transcript.writes.countP (· ≠ Packet.acknowledgement) ∧
      traffic.acksSent = outcomes.countP Outcome.acknowledged ∧
      traffic.packetsReceived = outcomes.countP Outcome.answered) ∧
    (.write Packet.acknowledgement, .error (.io "unplugged")) ∈ attempt.transcript.calls ∧
    attempt.value.2 = options.fresh := by
  intro options operations script ended traffic unwritable attempt
  have closed : (.close, .ok []) ∈ ended.transcript.calls := by decide +kernel
  have unwritten : (.write Packet.acknowledgement, .error (.io "unplugged")) ∈
      attempt.transcript.calls := by decide +kernel
  have booked : ended.value.map (·.2) = .ok (.ok traffic) := by decide +kernel
  obtain ⟨exact, unchanged⟩ := close_returns_exact_books
  obtain ⟨returned, counts⟩ := exact options operations script
  obtain ⟨outcomes, entered, value⟩ := returned [] closed
  have same : entered = traffic := by
    rw [show ended.value = _ from value] at booked
    exact Except.ok.inj (Except.ok.inj booked)
  subst same
  obtain ⟨-, packets, -, acks, -, -, -, replies⟩ := counts outcomes traffic value
  exact ⟨⟨outcomes, value, packets, acks, replies⟩, unwritten,
    unchanged .acknowledge options.fresh unwritable _ _ unwritten⟩

end BaudSwitch.Session
