import BaudSwitch.Proofs.Dialogue.Work
import BaudSwitch.Session

/-!
# Courses of a session

What a session can do with one request or one acknowledgement: which calls it makes, how each
of them can fail, and what is in the books afterwards.
-/

namespace BaudSwitch.Session

open Work

/-- What a reply says: the body of its first packet. Where replies are verified, one that is refused
says nothing. -/
def said (verify : Bool) (raw : Bytes) : Bytes :=
  match verify with
  | false => Packet.extract raw
  | true =>
      match Packet.extractVerified raw with
      | .ok body => body
      | .error _ => []

theorem said_of_ok {verify : Bool} {raw body : Bytes} (judged : payload verify raw = .ok body) :
    said verify raw = body := by
  cases verify with
  | false =>
      cases judged
      rfl
  | true =>
      have accepted : Packet.extractVerified raw = .ok body := judged
      simp only [said, accepted]

theorem said_of_error {verify : Bool} {raw : Bytes} {cause : Packet.Error}
    (judged : payload verify raw = .error cause) : said verify raw = [] := by
  cases verify with
  | false => cases judged
  | true =>
      have refused : Packet.extractVerified raw = .error cause := judged
      simp only [said, refused]

/-- The session with something entered into its books. -/
def booked (session : Session) (traffic : Traffic) : Session :=
  { session with traffic := session.traffic + traffic }

/-- The session after it read a reply. -/
def heard (session : Session) (raw : Bytes) : Session :=
  session.booked (.reply raw.length (said session.verifyChecksums raw != []))

/-- Courses of a write: only one that succeeds is entered into the books. -/
inductive Writes (session : Session) (bytes : Bytes) (traffic : Traffic) :
    List Exchange → Except PortError Unit → Session → Prop where
  | failed (cause : PortError) :
      Writes session bytes traffic [(.write bytes, .error cause)] (.error cause) session
  | written (echo : Bytes) :
      Writes session bytes traffic [(.write bytes, .ok echo)] (.ok ()) (session.booked traffic)

/-- Courses of an acknowledgement. -/
abbrev Acknowledges (session : Session) :
    List Exchange → Except PortError Unit → Session → Prop :=
  Writes session Packet.acknowledgement .acknowledgement

/-- The packet of a command. -/
abbrev packet (command : Command) : Bytes :=
  Packet.frame command.payload

/-- The session after it wrote a command. -/
abbrev sent (session : Session) (command : Command) : Session :=
  session.booked (.packet (packet command).length)

/-- Courses of a request: the packet is written, then one window is read. -/
inductive Requests (session : Session) (command : Command) :
    List Exchange → Except PortError Bytes → Session → Prop where
  | unsent (cause : PortError) :
      Requests session command [(.write (packet command), .error cause)] (.error cause) session
  | unread (echo : Bytes) (cause : PortError) :
      Requests session command
        [(.write (packet command), .ok echo), (.read session.maxResponse, .error cause)]
        (.error cause) (session.sent command)
  | answered (echo raw : Bytes) :
      Requests session command
        [(.write (packet command), .ok echo), (.read session.maxResponse, .ok raw)]
        (.ok (said session.verifyChecksums raw)) ((session.sent command).heard raw)

variable {session after : Session} {exchanges : List Exchange}

@[simp]
theorem performs_tell_iff {notice : Notice} {result : Except PortError Unit} :
    Performs (tell notice) session exchanges result after ↔
      exchanges = [] ∧ result = .ok () ∧ after = session := by
  change Dialogue.Yields (.note notice (.done (Except.ok (), session))) _ _ ↔ _
  simp

@[simp]
theorem performs_ask_iff {request : Call} {result : Except PortError Bytes} :
    Performs (ask request) session exchanges result after ↔
      exchanges = [(request, result)] ∧ after = session := by
  change Dialogue.Yields (.call request fun answer => .done (answer, session)) _ _ ↔ _
  simp only [Dialogue.yields_call_iff, Dialogue.yields_done_iff, Prod.mk.injEq]
  constructor
  · rintro ⟨_, _, rfl, rfl, rfl, rfl⟩
    exact ⟨rfl, rfl⟩
  · rintro ⟨rfl, rfl⟩
    exact ⟨result, [], rfl, rfl, rfl, rfl⟩

@[simp]
theorem performs_enter_iff {traffic : Traffic} {result : Except PortError Unit} :
    Performs (enter traffic) session exchanges result after ↔
      exchanges = [] ∧ result = .ok () ∧ after = session.booked traffic :=
  performs_modify_iff

@[simp]
theorem performs_tell_bind_iff {Value : Type} {notice : Notice} {andThen : Unit → SessionM Value}
    {result : Except PortError Value} :
    Performs (tell notice >>= andThen) session exchanges result after ↔
      Performs (andThen ()) session exchanges result after :=
  performs_bind_of_certain fun _ _ _ => performs_tell_iff

@[simp]
theorem performs_enter_bind_iff {Value : Type} {traffic : Traffic}
    {andThen : Unit → SessionM Value} {result : Except PortError Value} :
    Performs (enter traffic >>= andThen) session exchanges result after ↔
      Performs (andThen ()) (session.booked traffic) exchanges result after :=
  performs_bind_of_certain fun _ _ _ => performs_enter_iff

/-- A failed call is the last thing that work on a session does. -/
theorem performs_ask_bind_iff {Value : Type} {request : Call} {andThen : Bytes → SessionM Value}
    {result : Except PortError Value} :
    Performs (ask request >>= andThen) session exchanges result after ↔
      (∃ cause, exchanges = [(request, .error cause)] ∧ result = .error cause ∧
        after = session) ∨
      ∃ bytes rest, exchanges = (request, .ok bytes) :: rest ∧
        Performs (andThen bytes) session rest result after := by
  simp only [performs_bind_iff, performs_ask_iff]
  constructor
  · rintro (⟨cause, rfl, rfl, rfl⟩ | ⟨bytes, _, _, rest, rfl, ⟨rfl, rfl⟩, onward⟩)
    · exact .inl ⟨cause, rfl, rfl, rfl⟩
    · exact .inr ⟨bytes, rest, rfl, onward⟩
  · rintro (⟨cause, rfl, rfl, rfl⟩ | ⟨bytes, rest, rfl, onward⟩)
    · exact .inl ⟨cause, rfl, rfl, rfl⟩
    · exact .inr ⟨bytes, session, [(request, .ok bytes)], rest, rfl, ⟨rfl, rfl⟩, onward⟩

theorem writes_of_performs {notice : Notice} {bytes : Bytes} {traffic : Traffic}
    {result : Except PortError Unit}
    (course : Performs (do tell notice; let _ ← ask (.write bytes); enter traffic)
      session exchanges result after) :
    Writes session bytes traffic exchanges result after := by
  simp only [performs_tell_bind_iff, performs_ask_bind_iff, performs_enter_iff] at course
  rcases course with ⟨cause, rfl, rfl, rfl⟩ | ⟨echo, _, rfl, rfl, rfl, rfl⟩
  · exact .failed cause
  · exact .written echo

theorem acknowledges_of_performs {result : Except PortError Unit}
    (course : Performs acknowledge session exchanges result after) :
    Acknowledges session exchanges result after :=
  writes_of_performs course

theorem writes_of_performs_send {command : Command} {result : Except PortError Unit}
    (course : Performs (send command) session exchanges result after) :
    Writes session (packet command) (.packet (packet command).length) exchanges result after :=
  writes_of_performs course

theorem performs_receive {result : Except PortError Bytes}
    (course : Performs receive session exchanges result after) :
    (∃ cause, exchanges = [(.read session.maxResponse, .error cause)] ∧
      result = .error cause ∧ after = session) ∨
    ∃ raw, exchanges = [(.read session.maxResponse, .ok raw)] ∧
      result = .ok (said session.verifyChecksums raw) ∧ after = session.heard raw := by
  simp only [receive, performs_get_bind_iff, performs_ask_bind_iff, performs_tell_bind_iff]
    at course
  rcases course with failed | ⟨raw, rest, rfl, course⟩
  · exact .inl failed
  · refine .inr ⟨raw, ?_⟩
    cases judged : payload session.verifyChecksums raw with
    | ok body =>
        simp only [judged, performs_pure_bind_iff, performs_enter_bind_iff, performs_pure_iff]
          at course
        obtain ⟨rfl, rfl, rfl⟩ := course
        simp [heard, said_of_ok judged]
    | error cause =>
        simp only [judged, performs_tell_bind_iff, performs_pure_bind_iff,
          performs_enter_bind_iff, performs_pure_iff] at course
        obtain ⟨rfl, rfl, rfl⟩ := course
        simp [heard, said_of_error judged]

theorem requests_of_performs {command : Command} {result : Except PortError Bytes}
    (course : Performs (request command) session exchanges result after) :
    Requests session command exchanges result after := by
  rw [request, performs_tell_bind_iff, performs_bind_iff] at course
  rcases course with ⟨cause, rfl, sending⟩ | ⟨_, middle, _, later, rfl, sending, reading⟩
  · cases writes_of_performs_send sending with
    | failed => exact .unsent cause
  · cases writes_of_performs_send sending with
    | written echo =>
        rcases performs_receive reading with ⟨cause, rfl, rfl, rfl⟩ | ⟨raw, rfl, rfl, rfl⟩
        · exact .unread echo cause
        · exact .answered echo raw

end BaudSwitch.Session
