import BaudSwitch.Handshake
import BaudSwitch.Proofs.Session.Courses

/-!
# Moves of a handshake

A move is everything one step can do: the calls it makes with their answers, what it returns,
and the handshake it leaves.  Each stage has one move for every call that can fail and one for
every way it can succeed; what is proved of all moves holds of every step, whatever the port
answers and however often a failed stage is tried again.
-/

namespace BaudSwitch.Handshake

open Work

/-- The handshake with a session in its hands. -/
def holding (handshake : Handshake) (session : Session) : Handshake :=
  { handshake with session := some session }

def letGo (handshake : Handshake) : Handshake :=
  { handshake with session := none }

def reached (handshake : Handshake) (stage : Stage) : Handshake :=
  { handshake with stage := stage }

/-- The handshake with the books of a session that is over. -/
def tookOver (handshake : Handshake) (session : Session) : Handshake :=
  { handshake with session := none, traffic := handshake.traffic + session.traffic }

def gaveDivider (handshake : Handshake) (divider : UInt32) : Handshake :=
  { handshake with divider := some divider, speedChangeSent := true }

/-- The call that opens the port at a rate. -/
abbrev opening (handshake : Handshake) (baud : UInt32) : Call :=
  .connect handshake.settings.line.port baud handshake.settings.line.readTimeout

/-- The session that an opened port begins with. -/
def fresh (handshake : Handshake) (baud : UInt32) : Session :=
  { baud := baud
    maxResponse := handshake.settings.line.maxResponse
    verifyChecksums := handshake.settings.verifyChecksums }

/-- The command that gives the stub its divider. -/
abbrev dividerCommand (handshake : Handshake) (divider : UInt32) : Command :=
  .setDivider handshake.settings.target.baudRegister divider

/-- Courses of closing the port. The session is gone in any case. -/
inductive Closes (handshake : Handshake) :
    List Exchange → Except HandshakeError Unit → Handshake → Prop where
  | absent (absent : handshake.session = none) : Closes handshake [] (.ok ()) handshake
  | failed {session : Session} (held : handshake.session = some session) (cause : PortError) :
      Closes handshake [(.close, .error cause)] (.error (.port cause)) handshake.letGo
  | closed {session : Session} (held : handshake.session = some session) (echo : Bytes) :
      Closes handshake [(.close, .ok echo)] (.ok ()) (handshake.tookOver session)

/-- Courses of opening the port at a rate, with the stage that an opened port leads to. -/
inductive Opens (handshake : Handshake) (baud : UInt32) (next : Stage) :
    List Exchange → Except HandshakeError Stage → Handshake → Prop where
  | refused (cause : PortError) :
      Opens handshake baud next [(handshake.opening baud, .error cause)] (.error (.port cause))
        handshake
  | opened (echo : Bytes) :
      Opens handshake baud next [(handshake.opening baud, .ok echo)] (.ok next)
        (handshake.holding (handshake.fresh baud))

/-- Courses of the probe. Whatever comes back is acknowledged, silence too. -/
inductive Probes (handshake : Handshake) :
    List Exchange → Except HandshakeError Stage → Handshake → Prop where
  | notOpen (absent : handshake.session = none) :
      Probes handshake [] (.error .notOpen) handshake
  | failed {session last exchanges cause} (held : handshake.session = some session)
      (asked : session.Requests .probe exchanges (.error cause) last) :
      Probes handshake exchanges (.error (.port cause)) (handshake.holding last)
  | unacknowledged {session last exchanges body} (held : handshake.session = some session)
      (asked : session.Requests .probe exchanges (.ok body) last) (cause : PortError) :
      Probes handshake (exchanges ++ [(.write Packet.acknowledgement, .error cause)])
        (.error (.port cause)) (handshake.holding last)
  | probed {session last exchanges body} (held : handshake.session = some session)
      (asked : session.Requests .probe exchanges (.ok body) last) (echo : Bytes) :
      Probes handshake (exchanges ++ [(.write Packet.acknowledgement, .ok echo)])
        (.ok .querySupportedOld) (handshake.holding (last.booked .acknowledgement))

/-- Courses of the query at the old rate. The divider goes out behind an answer and its
acknowledgement, and only there. -/
inductive Switches (handshake : Handshake) :
    List Exchange → Except HandshakeError Stage → Handshake → Prop where
  | notOpen (absent : handshake.session = none) :
      Switches handshake [] (.error .notOpen) handshake
  | failed {session last exchanges cause} (held : handshake.session = some session)
      (asked : session.Requests .querySupported exchanges (.error cause) last) :
      Switches handshake exchanges (.error (.port cause)) (handshake.holding last)
  | silent {session last exchanges} (held : handshake.session = some session)
      (asked : session.Requests .querySupported exchanges (.ok []) last) :
      Switches handshake exchanges (.ok .reopen) (handshake.holding last)
  | unacknowledged {session last exchanges body} (held : handshake.session = some session)
      (asked : session.Requests .querySupported exchanges (.ok body) last) (answered : body ≠ [])
      (cause : PortError) :
      Switches handshake (exchanges ++ [(.write Packet.acknowledgement, .error cause)])
        (.error (.port cause)) (handshake.holding last)
  | outOfRange {session last exchanges body} (held : handshake.session = some session)
      (asked : session.Requests .querySupported exchanges (.ok body) last) (answered : body ≠ [])
      (echo : Bytes) (unreachable : handshake.settings.divider? = none) :
      Switches handshake (exchanges ++ [(.write Packet.acknowledgement, .ok echo)])
        (.error (.baudOutOfRange handshake.settings.line.targetBaud
          handshake.settings.target.clock))
        (handshake.holding (last.booked .acknowledgement))
  | untold {session last final exchanges more body divider cause}
      (held : handshake.session = some session)
      (asked : session.Requests .querySupported exchanges (.ok body) last) (answered : body ≠ [])
      (echo : Bytes) (reachable : handshake.settings.divider? = some divider)
      (told : (last.booked .acknowledgement).Requests (handshake.dividerCommand divider) more
        (.error cause) final) :
      Switches handshake (exchanges ++ (.write Packet.acknowledgement, .ok echo) :: more)
        (.error (.port cause)) (handshake.holding final)
  | switched {session last final exchanges more body divider reply}
      (held : handshake.session = some session)
      (asked : session.Requests .querySupported exchanges (.ok body) last) (answered : body ≠ [])
      (echo : Bytes) (reachable : handshake.settings.divider? = some divider)
      (told : (last.booked .acknowledgement).Requests (handshake.dividerCommand divider) more
        (.ok reply) final) :
      Switches handshake (exchanges ++ (.write Packet.acknowledgement, .ok echo) :: more)
        (.ok .reopen) ((handshake.holding final).gaveDivider divider)

/-- Courses of the change of rate. -/
inductive Reopens (handshake : Handshake) :
    List Exchange → Except HandshakeError Stage → Handshake → Prop where
  | unclosed {exchanges cause after} (closing : handshake.Closes exchanges (.error cause) after) :
      Reopens handshake exchanges (.error cause) after
  | closed {earlier later result closed after} (closing : handshake.Closes earlier (.ok ()) closed)
      (opening : closed.Opens handshake.settings.line.targetBaud .querySupportedNew later result
        after) :
      Reopens handshake (earlier ++ later) result after

/-- Courses of the query at the new rate. -/
inductive Confirms (handshake : Handshake) :
    List Exchange → Except HandshakeError Stage → Handshake → Prop where
  | notOpen (absent : handshake.session = none) :
      Confirms handshake [] (.error .notOpen) handshake
  | ungreeted {session} (held : handshake.session = some session) (cause : PortError) :
      Confirms handshake [(.write Packet.acknowledgement, .error cause)] (.error (.port cause))
        handshake
  | failed {session last exchanges cause} (held : handshake.session = some session) (echo : Bytes)
      (asked : (session.booked .acknowledgement).Requests .querySupported exchanges (.error cause)
        last) :
      Confirms handshake ((.write Packet.acknowledgement, .ok echo) :: exchanges)
        (.error (.port cause)) (handshake.holding last)
  | silentUnclosed {session last exchanges} (held : handshake.session = some session)
      (echo : Bytes)
      (asked : (session.booked .acknowledgement).Requests .querySupported exchanges (.ok []) last)
      (cause : PortError) :
      Confirms handshake
        ((.write Packet.acknowledgement, .ok echo) :: exchanges ++ [(.close, .error cause)])
        (.error (.port cause)) handshake.letGo
  | silent {session last exchanges} (held : handshake.session = some session) (echo : Bytes)
      (asked : (session.booked .acknowledgement).Requests .querySupported exchanges (.ok []) last)
      (farewell : Bytes) :
      Confirms handshake
        ((.write Packet.acknowledgement, .ok echo) :: exchanges ++ [(.close, .ok farewell)])
        (.ok (.done .noResponse)) (handshake.tookOver last)
  | unacknowledged {session last exchanges body} (held : handshake.session = some session)
      (echo : Bytes)
      (asked : (session.booked .acknowledgement).Requests .querySupported exchanges (.ok body) last)
      (answered : body ≠ []) (cause : PortError) :
      Confirms handshake
        ((.write Packet.acknowledgement, .ok echo) :: exchanges ++
          [(.write Packet.acknowledgement, .error cause)])
        (.error (.port cause)) (handshake.holding last)
  | answeredUnclosed {session last exchanges body} (held : handshake.session = some session)
      (echo : Bytes)
      (asked : (session.booked .acknowledgement).Requests .querySupported exchanges (.ok body) last)
      (answered : body ≠ []) (again : Bytes) (cause : PortError) :
      Confirms handshake
        ((.write Packet.acknowledgement, .ok echo) :: exchanges ++
          [(.write Packet.acknowledgement, .ok again), (.close, .error cause)])
        (.error (.port cause)) handshake.letGo
  | confirmed {session last exchanges body} (held : handshake.session = some session)
      (echo : Bytes)
      (asked : (session.booked .acknowledgement).Requests .querySupported exchanges (.ok body) last)
      (answered : body ≠ []) (again farewell : Bytes) :
      Confirms handshake
        ((.write Packet.acknowledgement, .ok echo) :: exchanges ++
          [(.write Packet.acknowledgement, .ok again), (.close, .ok farewell)])
        (.ok (.done .confirmed)) (handshake.tookOver (last.booked .acknowledgement))

/-- Courses of a stage. -/
def Pursues (handshake : Handshake) :
    Stage → List Exchange → Except HandshakeError Stage → Handshake → Prop
  | .openOld => handshake.Opens handshake.settings.line.initialBaud .probe
  | .probe => handshake.Probes
  | .querySupportedOld => handshake.Switches
  | .reopen => handshake.Reopens
  | .querySupportedNew => handshake.Confirms
  | .done outcome => fun exchanges result after =>
      exchanges = [] ∧ result = .ok (.done outcome) ∧ after = handshake

/-- Courses of a step. Only a step that succeeds moves on from its stage. -/
inductive Moves (handshake : Handshake) :
    List Exchange → Except HandshakeError Stage → Handshake → Prop where
  | failed {exchanges cause after}
      (course : handshake.Pursues handshake.stage exchanges (.error cause) after) :
      Moves handshake exchanges (.error cause) after
  | advanced {exchanges next last}
      (course : handshake.Pursues handshake.stage exchanges (.ok next) last) :
      Moves handshake exchanges (.ok next) (last.reached next)

section Parts

variable {handshake after : Handshake} {exchanges : List Exchange}

@[simp]
theorem performs_tell_iff {notice : Notice} {result : Except HandshakeError Unit} :
    Performs (tell notice) handshake exchanges result after ↔
      exchanges = [] ∧ result = .ok () ∧ after = handshake := by
  change Dialogue.Yields (.note notice (.done (Except.ok (), handshake))) _ _ ↔ _
  simp

@[simp]
theorem performs_settle_iff {result : Except HandshakeError Unit} :
    Performs settle handshake exchanges result after ↔
      exchanges = [] ∧ result = .ok () ∧ after = handshake := by
  change Dialogue.Yields (.pause _ (.done (Except.ok (), handshake))) _ _ ↔ _
  simp

@[simp]
theorem performs_tell_bind_iff {Value : Type} {notice : Notice}
    {andThen : Unit → HandshakeM Value} {result : Except HandshakeError Value} :
    Performs (tell notice >>= andThen) handshake exchanges result after ↔
      Performs (andThen ()) handshake exchanges result after :=
  performs_bind_of_certain fun _ _ _ => performs_tell_iff

@[simp]
theorem performs_settle_bind_iff {Value : Type} {andThen : Unit → HandshakeM Value}
    {result : Except HandshakeError Value} :
    Performs (settle >>= andThen) handshake exchanges result after ↔
      Performs (andThen ()) handshake exchanges result after :=
  performs_bind_of_certain fun _ _ _ => performs_settle_iff

theorem holding_of_held {session : Session} (held : handshake.session = some session) :
    handshake.holding session = handshake := by
  cases handshake
  cases held
  rfl

theorem openAt_apply (handshake : Handshake) (baud : UInt32) :
    openAt baud handshake = .call (handshake.opening baud) fun
      | .ok _ => .done (.ok (), handshake.holding (handshake.fresh baud))
      | .error cause => .done (.error (.port cause), handshake) := by
  change Dialogue.call _ _ = _
  congr 1
  funext answer
  cases answer <;> rfl

theorem closeSession_of_absent (absent : handshake.session = none) :
    closeSession handshake = .done (.ok (), handshake) := by
  rw [closeSession, absent]
  rfl

theorem closeSession_of_held {session : Session} (held : handshake.session = some session) :
    closeSession handshake = .call .close fun
      | .ok _ => .note (.sessionEnded session.baud session.traffic)
          (.done (.ok (), handshake.tookOver session))
      | .error cause => .done (.error (.port cause), handshake.letGo) := by
  rw [closeSession, held]
  change Dialogue.call _ _ = _
  congr 1
  funext answer
  cases answer <;> rfl

theorem withSession_of_absent {Value : Type} {work : SessionM Value}
    (absent : handshake.session = none) :
    withSession work handshake = .done (.error .notOpen, handshake) := by
  rw [withSession, absent]
  rfl

theorem withSession_of_held {Value : Type} {work : SessionM Value} {session : Session}
    (held : handshake.session = some session) :
    withSession work handshake =
      (work session).bind fun ended =>
        .done (ended.1.mapError .port, handshake.holding ended.2) := by
  rw [withSession, held]
  rfl

theorem opens_of_performs {baud : UInt32} {next : Stage} {result : Except HandshakeError Stage}
    (course : Performs (do openAt baud; return next) handshake exchanges result after) :
    Opens handshake baud next exchanges result after := by
  rw [Performs, bind_apply, openAt_apply] at course
  simp only [Dialogue.bind, Dialogue.yields_call_iff] at course
  obtain ⟨answer, rest, rfl, course⟩ := course
  cases answer with
  | error cause =>
      obtain ⟨rfl, ended⟩ := Dialogue.yields_done_iff.mp course
      cases ended
      exact .refused cause
  | ok echo =>
      obtain ⟨rfl, ended⟩ := Dialogue.yields_done_iff.mp course
      cases ended
      exact .opened echo

theorem closes_of_performs {result : Except HandshakeError Unit}
    (course : Performs closeSession handshake exchanges result after) :
    Closes handshake exchanges result after := by
  cases held : handshake.session with
  | none =>
      rw [Performs, closeSession_of_absent held, Dialogue.yields_done_iff] at course
      obtain ⟨rfl, ended⟩ := course
      cases ended
      exact .absent held
  | some session =>
      rw [Performs, closeSession_of_held held, Dialogue.yields_call_iff] at course
      obtain ⟨answer, rest, rfl, course⟩ := course
      cases answer with
      | error cause =>
          obtain ⟨rfl, ended⟩ := Dialogue.yields_done_iff.mp course
          cases ended
          exact .failed held cause
      | ok echo =>
          obtain ⟨rfl, ended⟩ := Dialogue.yields_done_iff.mp (Dialogue.yields_note_iff.mp course)
          cases ended
          exact .closed held echo

/-- Work on the open port ends as the work on its session does. -/
theorem performs_withSession_iff {Value : Type} {work : SessionM Value} {session : Session}
    (held : handshake.session = some session) {result : Except HandshakeError Value} :
    Performs (withSession work) handshake exchanges result after ↔
      ∃ ended last, Performs work session exchanges ended last ∧
        result = ended.mapError .port ∧ after = handshake.holding last := by
  rw [Performs, withSession_of_held held, Dialogue.yields_bind_iff]
  constructor
  · rintro ⟨⟨ended, last⟩, earlier, _, rfl, course, onward⟩
    obtain ⟨rfl, same⟩ := Dialogue.yields_done_iff.mp onward
    cases same
    rw [List.append_nil]
    exact ⟨ended, last, course, rfl, rfl⟩
  · rintro ⟨ended, last, course, rfl, rfl⟩
    exact ⟨(ended, last), exchanges, [], (List.append_nil _).symm, course, .done _⟩

/-- Work on the open port either fails, and nothing follows, or leaves the handshake with the
session as it is then. -/
theorem performs_withSession_bind {First Second : Type} {work : SessionM First}
    {andThen : First → HandshakeM Second} {session : Session}
    (held : handshake.session = some session) {result : Except HandshakeError Second}
    (course : Performs (withSession work >>= andThen) handshake exchanges result after) :
    (∃ cause last, Performs work session exchanges (.error cause) last ∧
      result = .error (.port cause) ∧ after = handshake.holding last) ∨
    ∃ value last earlier later, exchanges = earlier ++ later ∧
      Performs work session earlier (.ok value) last ∧
      Performs (andThen value) (handshake.holding last) later result after := by
  simp only [performs_bind_iff, performs_withSession_iff held] at course
  rcases course with ⟨_, rfl, ended, last, course, same, rfl⟩ |
    ⟨value, _, earlier, later, rfl, ⟨ended, last, course, same, rfl⟩, onward⟩
  · cases ended with
    | error cause =>
        cases same
        exact .inl ⟨cause, last, course, rfl, rfl⟩
    | ok value => cases same
  · cases ended with
    | error cause => cases same
    | ok value =>
        cases same
        exact .inr ⟨value, last, earlier, later, rfl, course, onward⟩

theorem performs_withSession_bind_of_absent {First Second : Type} {work : SessionM First}
    {andThen : First → HandshakeM Second} (absent : handshake.session = none)
    {result : Except HandshakeError Second}
    (course : Performs (withSession work >>= andThen) handshake exchanges result after) :
    exchanges = [] ∧ result = .error .notOpen ∧ after = handshake := by
  rw [Performs, bind_apply, withSession_of_absent absent] at course
  simpa using Dialogue.yields_done_iff.mp course

theorem performs_request_bind {Value : Type} {command : Command}
    {andThen : Bytes → HandshakeM Value} {session : Session}
    (held : handshake.session = some session) {result : Except HandshakeError Value}
    (course : Performs (withSession (Session.request command) >>= andThen) handshake exchanges
      result after) :
    (∃ cause last, session.Requests command exchanges (.error cause) last ∧
      result = .error (.port cause) ∧ after = handshake.holding last) ∨
    ∃ body last earlier later, exchanges = earlier ++ later ∧
      session.Requests command earlier (.ok body) last ∧
      Performs (andThen body) (handshake.holding last) later result after := by
  rcases performs_withSession_bind held course with
    ⟨cause, last, asking, rfl, rfl⟩ | ⟨body, last, earlier, later, rfl, asking, onward⟩
  · exact .inl ⟨cause, last, Session.requests_of_performs asking, rfl, rfl⟩
  · exact .inr ⟨body, last, earlier, later, rfl, Session.requests_of_performs asking, onward⟩

theorem performs_acknowledge_bind {Value : Type} {andThen : Unit → HandshakeM Value}
    {session : Session} (held : handshake.session = some session)
    {result : Except HandshakeError Value}
    (course : Performs (withSession Session.acknowledge >>= andThen) handshake exchanges
      result after) :
    (∃ cause, exchanges = [(.write Packet.acknowledgement, .error cause)] ∧
      result = .error (.port cause) ∧ after = handshake.holding session) ∨
    ∃ echo later, exchanges = (.write Packet.acknowledgement, .ok echo) :: later ∧
      Performs (andThen ()) (handshake.holding (session.booked .acknowledgement)) later
        result after := by
  rcases performs_withSession_bind held course with
    ⟨cause, last, acking, rfl, rfl⟩ | ⟨_, last, earlier, later, rfl, acking, onward⟩
  · cases Session.acknowledges_of_performs acking with
    | failed => exact .inl ⟨cause, rfl, rfl, rfl⟩
  · cases Session.acknowledges_of_performs acking with
    | written echo => exact .inr ⟨echo, later, rfl, onward⟩

theorem performs_closeSession_bind {Value : Type} {andThen : Unit → HandshakeM Value}
    {session : Session} (held : handshake.session = some session)
    {result : Except HandshakeError Value}
    (course : Performs (closeSession >>= andThen) handshake exchanges result after) :
    (∃ cause, exchanges = [(.close, .error cause)] ∧ result = .error (.port cause) ∧
      after = handshake.letGo) ∨
    ∃ farewell later, exchanges = (.close, .ok farewell) :: later ∧
      Performs (andThen ()) (handshake.tookOver session) later result after := by
  rcases performs_bind_iff.mp course with
    ⟨cause, rfl, closing⟩ | ⟨_, closed, earlier, later, rfl, closing, onward⟩
  · cases closes_of_performs closing with
    | failed _ cause => exact .inl ⟨cause, rfl, rfl, rfl⟩
  · cases closes_of_performs closing with
    | absent absent =>
        rw [held] at absent
        contradiction
    | closed alsoHeld farewell =>
        cases held.symm.trans alsoHeld
        exact .inr ⟨farewell, later, rfl, onward⟩

end Parts

section Stages

variable {handshake after : Handshake} {exchanges : List Exchange}
  {result : Except HandshakeError Stage}

theorem opensOld_of_performs
    (course : Performs (perform .openOld) handshake exchanges result after) :
    handshake.Opens handshake.settings.line.initialBaud .probe exchanges result after := by
  simp only [perform, performs_get_bind_iff, performs_tell_bind_iff] at course
  exact opens_of_performs course

theorem probes_of_performs
    (course : Performs (perform .probe) handshake exchanges result after) :
    handshake.Probes exchanges result after := by
  simp only [perform] at course
  cases held : handshake.session with
  | none =>
      obtain ⟨rfl, rfl, rfl⟩ := performs_withSession_bind_of_absent held course
      exact .notOpen held
  | some session =>
      rcases performs_request_bind held course with
        ⟨cause, last, asked, rfl, rfl⟩ | ⟨body, last, _, _, rfl, asked, course⟩
      · exact .failed held asked
      · rcases performs_acknowledge_bind rfl course with
          ⟨cause, rfl, rfl, rfl⟩ | ⟨echo, _, rfl, onward⟩
        · exact .unacknowledged held asked cause
        · obtain ⟨rfl, rfl, rfl⟩ := performs_pure_iff.mp onward
          exact .probed held asked echo

theorem switches_of_performs
    (course : Performs (perform .querySupportedOld) handshake exchanges result after) :
    handshake.Switches exchanges result after := by
  simp only [perform, switchSpeed, bind_assoc, performs_get_bind_iff] at course
  cases held : handshake.session with
  | none =>
      obtain ⟨rfl, rfl, rfl⟩ := performs_withSession_bind_of_absent held course
      exact .notOpen held
  | some session =>
      rcases performs_request_bind held course with
        ⟨cause, last, asked, rfl, rfl⟩ | ⟨body, last, earlier, later, rfl, asked, judging⟩
      · exact .failed held asked
      · by_cases silent : body = []
        · subst body
          simp only [if_true, bind_assoc, performs_get_bind_iff, performs_tell_bind_iff,
            performs_pure_iff] at judging
          obtain ⟨rfl, rfl, rfl⟩ := judging
          rw [List.append_nil]
          exact .silent held asked
        · simp only [if_neg silent, bind_assoc] at judging
          rcases performs_acknowledge_bind rfl judging with
            ⟨cause, rfl, rfl, rfl⟩ | ⟨echo, more, rfl, setting⟩
          · exact .unacknowledged held asked silent cause
          · cases reachable : handshake.settings.divider? with
            | none =>
                simp only [performs_tell_bind_iff, reachable, performs_throw_bind_iff] at setting
                obtain ⟨rfl, rfl, rfl⟩ := setting
                exact .outOfRange held asked silent echo reachable
            | some divider =>
                simp only [performs_tell_bind_iff, reachable, bind_assoc] at setting
                rcases performs_request_bind rfl setting with
                  ⟨cause, final, told, rfl, rfl⟩ | ⟨reply, final, more, _, rfl, told, noting⟩
                · exact .untold held asked silent echo reachable told
                · cases spoken : consoleOutput? reply <;>
                    simp only [spoken, bind_assoc, performs_tell_bind_iff,
                      performs_modify_bind_iff, performs_pure_iff] at noting <;>
                    obtain ⟨rfl, rfl, rfl⟩ := noting <;>
                    rw [List.append_nil] <;>
                    exact .switched held asked silent echo reachable told

theorem reopens_of_performs
    (course : Performs (perform .reopen) handshake exchanges result after) :
    handshake.Reopens exchanges result after := by
  simp only [perform] at course
  rcases performs_bind_iff.mp course with
    ⟨cause, rfl, closing⟩ | ⟨_, closed, earlier, later, rfl, closing, course⟩
  · exact .unclosed (closes_of_performs closing)
  · simp only [performs_settle_bind_iff, performs_get_bind_iff, performs_tell_bind_iff] at course
    have closing := closes_of_performs closing
    have same : closed.settings = handshake.settings := by
      cases closing <;> rfl
    rw [same] at course
    exact .closed closing (opens_of_performs course)

theorem confirms_of_performs
    (course : Performs (perform .querySupportedNew) handshake exchanges result after) :
    handshake.Confirms exchanges result after := by
  simp only [perform, confirm, bind_assoc] at course
  cases held : handshake.session with
  | none =>
      obtain ⟨rfl, rfl, rfl⟩ := performs_withSession_bind_of_absent held course
      exact .notOpen held
  | some session =>
      rcases performs_acknowledge_bind held course with
        ⟨cause, rfl, rfl, rfl⟩ | ⟨echo, later, rfl, asking⟩
      · rw [holding_of_held held]
        exact .ungreeted held cause
      · rcases performs_request_bind rfl asking with
          ⟨cause, last, asked, rfl, rfl⟩ | ⟨body, last, earlier, more, rfl, asked, judging⟩
        · exact .failed held echo asked
        · by_cases silent : body = []
          · subst body
            simp only [if_true, bind_assoc, pure_bind] at judging
            rcases performs_closeSession_bind rfl judging with
              ⟨cause, rfl, rfl, rfl⟩ | ⟨farewell, rest, rfl, ending⟩
            · exact .silentUnclosed held echo asked cause
            · obtain ⟨rfl, rfl, rfl⟩ := performs_pure_iff.mp ending
              exact .silent held echo asked farewell
          · simp only [if_neg silent, bind_assoc, pure_bind] at judging
            rcases performs_acknowledge_bind rfl judging with
              ⟨cause, rfl, rfl, rfl⟩ | ⟨again, rest, rfl, settling⟩
            · exact .unacknowledged held echo asked silent cause
            · rw [performs_settle_bind_iff] at settling
              rcases performs_closeSession_bind rfl settling with
                ⟨cause, rfl, rfl, rfl⟩ | ⟨farewell, rest, rfl, ending⟩
              · exact .answeredUnclosed held echo asked silent again cause
              · obtain ⟨rfl, rfl, rfl⟩ := performs_pure_iff.mp ending
                exact .confirmed held echo asked silent again farewell

theorem pursues_of_performs {stage : Stage}
    (course : Performs (perform stage) handshake exchanges result after) :
    handshake.Pursues stage exchanges result after := by
  cases stage with
  | openOld => exact opensOld_of_performs course
  | probe => exact probes_of_performs course
  | querySupportedOld => exact switches_of_performs course
  | reopen => exact reopens_of_performs course
  | querySupportedNew => exact confirms_of_performs course
  | done outcome => exact performs_pure_iff.mp course

theorem Moves.pursues (move : handshake.Moves exchanges result after) :
    ∃ last, handshake.Pursues handshake.stage exchanges result last := by
  cases move with
  | failed course => exact ⟨_, course⟩
  | advanced course => exact ⟨_, course⟩

/-- Every course of a step is a move. -/
theorem moves_of_performs (course : Performs step handshake exchanges result after) :
    handshake.Moves exchanges result after := by
  simp only [step, performs_get_bind_iff] at course
  rcases performs_bind_iff.mp course with
    ⟨cause, rfl, failing⟩ | ⟨next, last, earlier, later, rfl, working, advancing⟩
  · exact .failed (pursues_of_performs failing)
  · simp only [performs_tell_bind_iff, performs_modify_bind_iff, performs_pure_iff] at advancing
    obtain ⟨rfl, rfl, rfl⟩ := advancing
    rw [List.append_nil]
    exact .advanced (pursues_of_performs working)

end Stages

end BaudSwitch.Handshake
