import BaudSwitch.Proofs.Handshake.Histories
import BaudSwitch.Proofs.Packet.Framing

/-!
# Books of a handshake

Every exchange counts for something, and the books of a handshake, those of the session in its
hands included, grow by just what its exchanges count for.  Only a close that fails loses the
books of a session.
-/

namespace BaudSwitch

namespace Traffic

theorem add_assoc (first second third : Traffic) :
    first + second + third = first + (second + third) := by
  change add (add _ _) _ = add _ (add _ _)
  simp [add, Nat.add_assoc]

@[simp]
theorem add_empty (traffic : Traffic) : traffic + {} = traffic := rfl

@[simp]
theorem empty_add (traffic : Traffic) : {} + traffic = traffic := by
  change add _ _ = _
  simp [add]

/-- What an exchange counts for. Whether a reply says something depends on whether replies are
verified. -/
def ofExchange (verify : Bool) : Exchange → Traffic
  | (.write bytes, .ok _) =>
      if bytes = Packet.acknowledgement then acknowledgement else packet bytes.length
  | (.read _, .ok raw) => reply raw.length (Session.said verify raw != [])
  | _ => {}

def tally (verify : Bool) : List Exchange → Traffic
  | [] => {}
  | exchange :: rest => ofExchange verify exchange + tally verify rest

@[simp]
theorem tally_append (verify : Bool) (first second : List Exchange) :
    tally verify (first ++ second) = tally verify first + tally verify second := by
  induction first with
  | nil => simp [tally]
  | cons exchange rest inductionHypothesis =>
      rw [List.cons_append, tally, inductionHypothesis, tally, add_assoc]

end Traffic

namespace Session

variable {session middle last : Session} {command : Command}
  {exchanges earlier later : List Exchange}

/-- The session lived through these exchanges: they are in its books, all else is as it was. -/
structure Grows (session : Session) (exchanges : List Exchange) (last : Session) : Prop where
  baud : last.baud = session.baud
  maxResponse : last.maxResponse = session.maxResponse
  verifyChecksums : last.verifyChecksums = session.verifyChecksums
  traffic : last.traffic = session.traffic + Traffic.tally session.verifyChecksums exchanges

theorem Grows.trans (first : session.Grows earlier middle) (second : middle.Grows later last) :
    session.Grows (earlier ++ later) last where
  baud := second.baud.trans first.baud
  maxResponse := second.maxResponse.trans first.maxResponse
  verifyChecksums := second.verifyChecksums.trans first.verifyChecksums
  traffic := by
    rw [second.traffic, first.traffic, first.verifyChecksums, Traffic.tally_append,
      Traffic.add_assoc]

/-- The session reads as the settings say. -/
structure Follows (session : Session) (settings : Settings) : Prop where
  maxResponse : session.maxResponse = settings.line.maxResponse
  verifyChecksums : session.verifyChecksums = settings.verifyChecksums

theorem Follows.grows {settings : Settings} (follows : session.Follows settings)
    (grows : session.Grows exchanges last) : last.Follows settings :=
  ⟨grows.maxResponse.trans follows.maxResponse, grows.verifyChecksums.trans follows.verifyChecksums⟩

theorem grows_unwritten (session : Session) (bytes : Bytes) (cause : PortError) :
    session.Grows [(.write bytes, .error cause)] session :=
  ⟨rfl, rfl, rfl, rfl⟩

theorem grows_acknowledged (session : Session) (echo : Bytes) :
    session.Grows [(.write Packet.acknowledgement, .ok echo)]
      (session.booked .acknowledgement) :=
  ⟨rfl, rfl, rfl, rfl⟩

theorem grows_sent (session : Session) (command : Command) (echo : Bytes) :
    session.Grows [(.write (packet command), .ok echo)] (session.sent command) := by
  refine ⟨rfl, rfl, rfl, ?_⟩
  simp [booked, Traffic.tally, Traffic.ofExchange]

theorem grows_heard (session : Session) (raw : Bytes) :
    session.Grows [(.read session.maxResponse, .ok raw)] (session.heard raw) :=
  ⟨rfl, rfl, rfl, rfl⟩

theorem Requests.grows {result : Except PortError Bytes}
    (asked : session.Requests command exchanges result last) : session.Grows exchanges last := by
  cases asked with
  | unsent cause => exact grows_unwritten session _ cause
  | unread echo cause => exact (grows_sent session command echo).trans ⟨rfl, rfl, rfl, rfl⟩
  | answered echo raw => exact (grows_sent session command echo).trans (grows_heard _ raw)

end Session

namespace Handshake

/-- The books of all sessions, of the one in hand too. -/
def books (handshake : Handshake) : Traffic :=
  handshake.traffic + handshake.session.elim {} Session.traffic

/-- The session in hand reads as the settings say. -/
def Configured (handshake : Handshake) : Prop :=
  ∀ session, handshake.session = some session → session.Follows handshake.settings

/-- What every course keeps. Books are lost only where a close fails. -/
structure Keeps (handshake : Handshake) (exchanges : List Exchange) (after : Handshake) :
    Prop where
  settings : after.settings = handshake.settings
  configured : after.Configured
  books : (∀ cause, (.close, .error cause) ∉ exchanges) →
    after.books = handshake.books + Traffic.tally handshake.settings.verifyChecksums exchanges

variable {handshake after : Handshake} {exchanges earlier later : List Exchange}

theorem Keeps.trans {middle : Handshake} (first : handshake.Keeps earlier middle)
    (second : middle.Keeps later after) : handshake.Keeps (earlier ++ later) after where
  settings := second.settings.trans first.settings
  configured := second.configured
  books := by
    intro closes
    have closesEarlier := fun cause membership =>
      closes cause (List.mem_append_left later membership)
    have closesLater := fun cause membership =>
      closes cause (List.mem_append_right earlier membership)
    rw [second.books closesLater, first.books closesEarlier, first.settings,
      Traffic.tally_append, Traffic.add_assoc]

section Session

variable {session last : Session}

@[simp]
theorem letGo_holding (handshake : Handshake) (session : Session) :
    (handshake.holding session).letGo = handshake.letGo := rfl

@[simp]
theorem tookOver_holding (handshake : Handshake) (session last : Session) :
    (handshake.holding session).tookOver last = handshake.tookOver last := rfl

theorem keeps_holding (configured : handshake.Configured)
    (held : handshake.session = some session) (grows : session.Grows exchanges last) :
    handshake.Keeps exchanges (handshake.holding last) where
  settings := rfl
  configured := by
    intro other same
    cases same
    exact (configured session held).grows grows
  books := by
    intro _
    rw [books, books, held, ← (configured session held).verifyChecksums, Traffic.add_assoc]
    exact congrArg (handshake.traffic + ·) grows.traffic

theorem keeps_letGo (handshake : Handshake) (cause : PortError) :
    handshake.Keeps [(.close, .error cause)] handshake.letGo where
  settings := rfl
  configured := by
    intro other same
    cases same
  books := by
    intro closes
    exact absurd (List.mem_singleton_self _) (closes cause)

theorem keeps_tookOver (held : handshake.session = some session) (farewell : Bytes) :
    handshake.Keeps [(.close, .ok farewell)] (handshake.tookOver session) where
  settings := rfl
  configured := by
    intro other same
    cases same
  books := by
    intro _
    rw [books, books, held]
    rfl

end Session

theorem keeps_nothing (configured : handshake.Configured) : handshake.Keeps [] handshake :=
  ⟨rfl, configured, fun _ => rfl⟩

theorem Closes.keeps {result : Except HandshakeError Unit} (configured : handshake.Configured)
    (course : handshake.Closes exchanges result after) : handshake.Keeps exchanges after := by
  cases course with
  | absent => exact keeps_nothing configured
  | failed _ cause => exact keeps_letGo handshake cause
  | closed held farewell => exact keeps_tookOver held farewell

theorem Opens.keeps {baud : UInt32} {next : Stage} {result : Except HandshakeError Stage}
    (absent : handshake.session = none)
    (course : handshake.Opens baud next exchanges result after) :
    handshake.Keeps exchanges after := by
  cases course with
  | refused cause =>
      refine ⟨rfl, ?_, fun _ => rfl⟩
      intro session held
      rw [absent] at held
      cases held
  | opened echo =>
      refine ⟨rfl, ?_, ?_⟩
      · intro session held
        cases held
        exact ⟨rfl, rfl⟩
      · intro _
        rw [books, books, absent]
        rfl

theorem Probes.keeps {result : Except HandshakeError Stage} (configured : handshake.Configured)
    (course : handshake.Probes exchanges result after) : handshake.Keeps exchanges after := by
  cases course with
  | notOpen => exact keeps_nothing configured
  | failed held asked => exact keeps_holding configured held asked.grows
  | unacknowledged held asked cause =>
      exact keeps_holding configured held (asked.grows.trans (Session.grows_unwritten _ _ cause))
  | probed held asked echo =>
      exact keeps_holding configured held (asked.grows.trans (Session.grows_acknowledged _ echo))

theorem Switches.keeps {result : Except HandshakeError Stage} (configured : handshake.Configured)
    (course : handshake.Switches exchanges result after) : handshake.Keeps exchanges after := by
  cases course with
  | notOpen => exact keeps_nothing configured
  | failed held asked => exact keeps_holding configured held asked.grows
  | silent held asked => exact keeps_holding configured held asked.grows
  | unacknowledged held asked _ cause =>
      exact keeps_holding configured held (asked.grows.trans (Session.grows_unwritten _ _ cause))
  | outOfRange held asked _ echo =>
      exact keeps_holding configured held (asked.grows.trans (Session.grows_acknowledged _ echo))
  | untold held asked _ echo _ told =>
      exact keeps_holding configured held
        (asked.grows.trans ((Session.grows_acknowledged _ echo).trans told.grows))
  | switched held asked _ echo _ told =>
      have kept := keeps_holding configured held
        (asked.grows.trans ((Session.grows_acknowledged _ echo).trans told.grows))
      exact ⟨kept.settings, kept.configured, kept.books⟩

theorem Reopens.keeps {result : Except HandshakeError Stage} (configured : handshake.Configured)
    (course : handshake.Reopens exchanges result after) : handshake.Keeps exchanges after := by
  cases course with
  | unclosed closing => exact closing.keeps configured
  | @closed _ _ _ closed _ closing opening =>
      have absent : closed.session = none := by
        cases closing with
        | absent absent => exact absent
        | closed => rfl
      exact (closing.keeps configured).trans (opening.keeps absent)

theorem Confirms.keeps {result : Except HandshakeError Stage} (configured : handshake.Configured)
    (course : handshake.Confirms exchanges result after) : handshake.Keeps exchanges after := by
  cases course with
  | notOpen => exact keeps_nothing configured
  | ungreeted held cause =>
      have kept := keeps_holding configured held
        (Session.grows_unwritten _ Packet.acknowledgement cause)
      rwa [holding_of_held held] at kept
  | failed held echo asked =>
      exact keeps_holding configured held ((Session.grows_acknowledged _ echo).trans asked.grows)
  | silentUnclosed held echo asked cause =>
      have kept := keeps_holding configured held
        ((Session.grows_acknowledged _ echo).trans asked.grows)
      exact kept.trans (keeps_letGo _ cause)
  | silent held echo asked farewell =>
      have kept := keeps_holding configured held
        ((Session.grows_acknowledged _ echo).trans asked.grows)
      exact kept.trans (keeps_tookOver rfl farewell)
  | unacknowledged held echo asked _ cause =>
      exact keeps_holding configured held (((Session.grows_acknowledged _ echo).trans
        asked.grows).trans (Session.grows_unwritten _ _ cause))
  | answeredUnclosed held echo asked _ again cause =>
      have kept := keeps_holding configured held (((Session.grows_acknowledged _ echo).trans
        asked.grows).trans (Session.grows_acknowledged _ again))
      simpa using kept.trans (keeps_letGo _ cause)
  | confirmed held echo asked _ again farewell =>
      have kept := keeps_holding configured held (((Session.grows_acknowledged _ echo).trans
        asked.grows).trans (Session.grows_acknowledged _ again))
      simpa using kept.trans (keeps_tookOver rfl farewell)

theorem Pursues.keeps {stage : Stage} {result : Except HandshakeError Stage}
    (configured : handshake.Configured) (unopened : stage = .openOld → handshake.session = none)
    (course : handshake.Pursues stage exchanges result after) :
    handshake.Keeps exchanges after := by
  cases stage with
  | openOld => exact Opens.keeps (unopened rfl) course
  | probe => exact Probes.keeps configured course
  | querySupportedOld => exact Switches.keeps configured course
  | reopen => exact Reopens.keeps configured course
  | querySupportedNew => exact Confirms.keeps configured course
  | done outcome =>
      obtain ⟨rfl, -, rfl⟩ := course
      exact keeps_nothing configured

/-- Nothing is held before the port is opened for the first time. -/
def Unopened (handshake : Handshake) : Prop :=
  handshake.stage = .openOld → handshake.session = none

theorem configured_new (settings : Settings) : ({ settings } : Handshake).Configured := by
  intro session held
  cases held

theorem unopened_new (settings : Settings) : ({ settings } : Handshake).Unopened :=
  fun _ => rfl

theorem Moves.keeps {result : Except HandshakeError Stage} (configured : handshake.Configured)
    (unopened : handshake.Unopened) (move : handshake.Moves exchanges result after) :
    handshake.Keeps exchanges after := by
  cases move with
  | failed course => exact course.keeps configured unopened
  | advanced course =>
      have kept := course.keeps configured unopened
      exact ⟨kept.settings, kept.configured, kept.books⟩

theorem Moves.unopened {result : Except HandshakeError Stage} (unopened : handshake.Unopened)
    (move : handshake.Moves exchanges result after) : after.Unopened := by
  intro opening
  obtain ⟨before, rfl, -⟩ := move.refused opening
  exact unopened before

theorem Runs.keeps {result : Except HandshakeError Report} (configured : handshake.Configured)
    (unopened : handshake.Unopened) (course : Runs handshake exchanges result after) :
    handshake.Keeps exchanges after := by
  induction course with
  | failed move => exact move.keeps configured unopened
  | finished move => exact move.keeps configured unopened
  | onward move unfinished rest inductionHypothesis =>
      have kept := move.keeps configured unopened
      exact kept.trans (inductionHypothesis kept.configured (move.unopened unopened))

end Handshake

end BaudSwitch
