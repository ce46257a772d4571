import BaudSwitch.Port.Script
import BaudSwitch.Proofs.Handshake.Books

/-!
# When the stub is given a divider

Commands for the monitor go out only on the port as it was opened first, at the initial rate, and
right behind an answer to the query and its acknowledgement.  This holds over any number of steps,
whatever fails in them and however often a step is tried again; and one run sends at most one.
-/

namespace BaudSwitch

namespace Exchange

/-- Whether this writes a packet for the monitor, even in vain. -/
def toMonitor : Exchange → Bool
  | (.write packet, _) => decide (Bytes.ascii "$qRcmd," <+: packet)
  | _ => false

/-- The exchange neither opens the port nor closes it, not even in vain. -/
def OnLine : Exchange → Prop
  | (.write _, _) | (.read _, _) => True
  | _ => False

@[simp]
theorem onLine_write (bytes : Bytes) (answer : Answer) : OnLine (.write bytes, answer) := trivial

@[simp]
theorem onLine_read (limit : UInt64) (answer : Answer) : OnLine (.read limit, answer) := trivial

end Exchange

/-- No exchange opens or closes the port. -/
def StaysOpen (exchanges : List Exchange) : Prop :=
  ∀ exchange ∈ exchanges, Exchange.OnLine exchange

@[simp]
theorem staysOpen_nil : StaysOpen [] := by
  simp [StaysOpen]

@[simp]
theorem staysOpen_cons (exchange : Exchange) (rest : List Exchange) :
    StaysOpen (exchange :: rest) ↔ Exchange.OnLine exchange ∧ StaysOpen rest :=
  List.forall_mem_cons

@[simp]
theorem staysOpen_append (first second : List Exchange) :
    StaysOpen (first ++ second) ↔ StaysOpen first ∧ StaysOpen second :=
  List.forall_mem_append

/-- How many packets for the monitor were written. -/
def monitored (exchanges : List Exchange) : Nat :=
  exchanges.countP Exchange.toMonitor

@[simp]
theorem monitored_append (first second : List Exchange) :
    monitored (first ++ second) = monitored first + monitored second :=
  List.countP_append

@[simp]
theorem monitored_nil : monitored [] = 0 := rfl

@[simp]
theorem monitored_cons (exchange : Exchange) (rest : List Exchange) :
    monitored (exchange :: rest) = monitored rest + if exchange.toMonitor then 1 else 0 :=
  List.countP_cons

@[simp]
theorem toMonitor_connect {port : String} {baud : UInt32} {window : UInt64} {answer : Answer} :
    Exchange.toMonitor (.connect port baud window, answer) = false := rfl

@[simp]
theorem toMonitor_read {limit : UInt64} {answer : Answer} :
    Exchange.toMonitor (.read limit, answer) = false := rfl

@[simp]
theorem toMonitor_close {answer : Answer} : Exchange.toMonitor (.close, answer) = false := rfl

theorem toMonitor_write (packet : Bytes) (answer : Answer) :
    Exchange.toMonitor (.write packet, answer) = decide (Bytes.ascii "$qRcmd," <+: packet) := rfl

@[simp]
theorem toMonitor_acknowledgement {answer : Answer} :
    Exchange.toMonitor (.write Packet.acknowledgement, answer) = false := by
  rw [toMonitor_write]
  decide

@[simp]
theorem toMonitor_probe {answer : Answer} :
    Exchange.toMonitor (.write (Session.packet .probe), answer) = false := by
  rw [toMonitor_write]
  decide

@[simp]
theorem toMonitor_querySupported {answer : Answer} :
    Exchange.toMonitor (.write (Session.packet .querySupported), answer) = false := by
  rw [toMonitor_write]
  decide

namespace Handshake

section Permission

variable (settings : Settings)

/-- The call that opens the port first. -/
def firstOpening : Call :=
  .connect settings.line.port settings.line.initialBaud settings.line.readTimeout

/-- Nothing happened but that the first opening was refused, again and again. -/
def Unanswered (history : List Exchange) : Prop :=
  ∀ exchange ∈ history, ∃ cause, exchange = (firstOpening settings, .error cause)

/-- The port was opened once, at the initial rate, and has been open since. -/
def OpenedOnce (history : List Exchange) : Prop :=
  ∃ refused echo since, history = refused ++ (firstOpening settings, .ok echo) :: since ∧
    Unanswered settings refused ∧ StaysOpen since

/-- What must have happened before this packet may be written. -/
def Allows (history : List Exchange) (packet : Bytes) : Prop :=
  (∃ before first raw second, OpenedOnce settings before ∧
    history = before ++ [(.write (Bytes.ascii "$qSupported#37"), .ok first),
      (.read settings.line.maxResponse, .ok raw), (.write (Bytes.ascii "+"), .ok second)] ∧
    Session.said settings.verifyChecksums raw ≠ []) ∧
  ∃ divider, BaudSwitch.divider? settings.target.clock settings.line.targetBaud = some divider ∧
    packet = Packet.frame (Command.setDivider settings.target.baudRegister divider).payload

/-- After this history, every packet for the monitor is written only where it may be. -/
def AllowedFrom : List Exchange → List Exchange → Prop
  | _, [] => True
  | history, exchange :: rest =>
      (exchange.toMonitor → ∃ packet, exchange.1 = .write packet ∧
        Allows settings history packet) ∧
      AllowedFrom (history ++ [exchange]) rest

end Permission

variable {settings : Settings} {handshake after : Handshake} {session : Session}
  {exchanges history : List Exchange}

theorem allowedFrom_append (first second : List Exchange) :
    AllowedFrom settings history (first ++ second) ↔
      AllowedFrom settings history first ∧ AllowedFrom settings (history ++ first) second := by
  induction first generalizing history with
  | nil => simp [AllowedFrom]
  | cons exchange rest inductionHypothesis =>
      simp only [List.cons_append, AllowedFrom, inductionHypothesis, List.append_assoc,
        List.nil_append, and_assoc]

theorem allowedFrom_of_unmonitored (unmonitored : monitored exchanges = 0) :
    AllowedFrom settings history exchanges := by
  induction exchanges generalizing history with
  | nil => trivial
  | cons exchange rest inductionHypothesis =>
      have quiet : exchange.toMonitor = false := by
        cases loud : exchange.toMonitor with
        | false => rfl
        | true => simp [loud] at unmonitored
      refine ⟨?_, inductionHypothesis ?_⟩
      · simp [quiet]
      · simpa [quiet] using unmonitored

theorem OpenedOnce.append (opened : OpenedOnce settings history)
    (stays : StaysOpen exchanges) : OpenedOnce settings (history ++ exchanges) := by
  obtain ⟨refused, echo, since, rfl, refusals, quiet⟩ := opened
  refine ⟨refused, echo, since ++ exchanges, by simp, refusals, ?_⟩
  exact (staysOpen_append since exchanges).mpr ⟨quiet, stays⟩

/-! ## What the stages write -/

theorem requests_staysOpen {command : Command} {last : Session} {heard : Except PortError Bytes}
    (asked : session.Requests command exchanges heard last) : StaysOpen exchanges := by
  cases asked <;> simp

theorem monitored_ordinary {command : Command} {last : Session} {heard : Except PortError Bytes}
    (ordinary : command = .probe ∨ command = .querySupported)
    (asked : session.Requests command exchanges heard last) : monitored exchanges = 0 := by
  rcases ordinary with rfl | rfl <;> cases asked <;> simp

theorem monitored_request_le {command : Command} {last : Session}
    {heard : Except PortError Bytes} (asked : session.Requests command exchanges heard last) :
    monitored exchanges ≤ 1 := by
  cases asked <;> simp <;> split <;> omega

section Stages

variable {result : Except HandshakeError Stage}

theorem Opens.unmonitored {baud : UInt32} {next : Stage}
    (course : handshake.Opens baud next exchanges result after) : monitored exchanges = 0 := by
  cases course <;> simp

theorem Probes.staysOpen (course : handshake.Probes exchanges result after) :
    StaysOpen exchanges := by
  cases course with
  | notOpen => simp
  | failed held asked => exact requests_staysOpen asked
  | unacknowledged held asked => simp [requests_staysOpen asked]
  | probed held asked => simp [requests_staysOpen asked]

theorem Probes.unmonitored (course : handshake.Probes exchanges result after) :
    monitored exchanges = 0 := by
  cases course with
  | notOpen => rfl
  | failed held asked => exact monitored_ordinary (.inl rfl) asked
  | unacknowledged held asked => simp [monitored_ordinary (.inl rfl) asked]
  | probed held asked => simp [monitored_ordinary (.inl rfl) asked]

theorem Reopens.unmonitored (course : handshake.Reopens exchanges result after) :
    monitored exchanges = 0 := by
  cases course with
  | unclosed closing =>
      cases closing with
      | failed => rfl
  | closed closing opening => cases closing <;> simp [opening.unmonitored]

theorem Confirms.unmonitored (course : handshake.Confirms exchanges result after) :
    monitored exchanges = 0 := by
  cases course with
  | notOpen => rfl
  | ungreeted => simp
  | failed held echo asked => simp [monitored_ordinary (.inr rfl) asked]
  | silentUnclosed held echo asked => simp [monitored_ordinary (.inr rfl) asked]
  | silent held echo asked => simp [monitored_ordinary (.inr rfl) asked]
  | unacknowledged held echo asked => simp [monitored_ordinary (.inr rfl) asked]
  | answeredUnclosed held echo asked => simp [monitored_ordinary (.inr rfl) asked]
  | confirmed held echo asked => simp [monitored_ordinary (.inr rfl) asked]

theorem Switches.staysOpen (course : handshake.Switches exchanges result after) :
    StaysOpen exchanges := by
  cases course with
  | notOpen => simp
  | failed held asked => exact requests_staysOpen asked
  | silent held asked => exact requests_staysOpen asked
  | unacknowledged held asked => simp [requests_staysOpen asked]
  | outOfRange held asked => simp [requests_staysOpen asked]
  | untold held asked answered echo reachable told =>
      simp [requests_staysOpen asked, requests_staysOpen told]
  | switched held asked answered echo reachable told =>
      simp [requests_staysOpen asked, requests_staysOpen told]

theorem Switches.monitored_le (course : handshake.Switches exchanges result after) :
    monitored exchanges ≤ 1 := by
  cases course with
  | notOpen => simp
  | failed held asked => simp [monitored_ordinary (.inr rfl) asked]
  | silent held asked => simp [monitored_ordinary (.inr rfl) asked]
  | unacknowledged held asked => simp [monitored_ordinary (.inr rfl) asked]
  | outOfRange held asked => simp [monitored_ordinary (.inr rfl) asked]
  | untold held asked answered echo reachable told =>
      simpa [monitored_ordinary (.inr rfl) asked] using monitored_request_le told
  | switched held asked answered echo reachable told =>
      simpa [monitored_ordinary (.inr rfl) asked] using monitored_request_le told

/-- The divider goes out behind an answered query and its acknowledgement. -/
theorem allowedFrom_divider {exchanges more : List Exchange} {last final : Session} {body : Bytes}
    {divider : UInt32} {told : Except PortError Bytes} {echo : Bytes}
    (opened : OpenedOnce handshake.settings history)
    (follows : session.Follows handshake.settings)
    (asked : session.Requests .querySupported exchanges (.ok body) last) (answered : body ≠ [])
    (reachable : handshake.settings.divider? = some divider)
    (telling : (last.booked .acknowledgement).Requests (handshake.dividerCommand divider) more told
      final) :
    AllowedFrom handshake.settings history
      (exchanges ++ (.write Packet.acknowledgement, .ok echo) :: more) := by
  -- All that comes before the divider is what it is allowed by; a read at most comes after it.
  have quiet : AllowedFrom handshake.settings history
      (exchanges ++ [(.write Packet.acknowledgement, .ok echo)]) :=
    allowedFrom_of_unmonitored (by simp [monitored_ordinary (.inr rfl) asked])
  have allows : Allows handshake.settings
      (history ++ (exchanges ++ [(.write Packet.acknowledgement, .ok echo)]))
      (Session.packet (handshake.dividerCommand divider)) := by
    cases asked with
    | answered first raw =>
        rw [follows.verifyChecksums] at answered
        refine ⟨⟨history, first, raw, echo, opened, ?_, answered⟩, divider, reachable, rfl⟩
        rw [follows.maxResponse]
        rfl
  rw [List.append_cons, allowedFrom_append]
  refine ⟨quiet, ?_⟩
  cases telling with
  | unsent cause => exact ⟨fun _ => ⟨_, rfl, allows⟩, trivial⟩
  | unread second cause => exact ⟨fun _ => ⟨_, rfl, allows⟩, Bool.noConfusion, trivial⟩
  | answered second raw => exact ⟨fun _ => ⟨_, rfl, allows⟩, Bool.noConfusion, trivial⟩

theorem Switches.allowed (configured : handshake.Configured)
    (opened : OpenedOnce handshake.settings history)
    (course : handshake.Switches exchanges result after) :
    AllowedFrom handshake.settings history exchanges := by
  cases course with
  | notOpen => trivial
  | failed held asked =>
      exact allowedFrom_of_unmonitored (monitored_ordinary (.inr rfl) asked)
  | silent held asked =>
      exact allowedFrom_of_unmonitored (monitored_ordinary (.inr rfl) asked)
  | unacknowledged held asked =>
      exact allowedFrom_of_unmonitored (by simp [monitored_ordinary (.inr rfl) asked])
  | outOfRange held asked =>
      exact allowedFrom_of_unmonitored (by simp [monitored_ordinary (.inr rfl) asked])
  | untold held asked answered echo reachable told =>
      exact allowedFrom_divider opened (configured _ held) asked answered reachable told
  | switched held asked answered echo reachable told =>
      exact allowedFrom_divider opened (configured _ held) asked answered reachable told

theorem Pursues.unmonitored {stage : Stage} (elsewhere : stage ≠ .querySupportedOld)
    (course : handshake.Pursues stage exchanges result after) : monitored exchanges = 0 := by
  cases stage with
  | openOld => exact Opens.unmonitored course
  | probe => exact Probes.unmonitored course
  | querySupportedOld => contradiction
  | reopen => exact Reopens.unmonitored course
  | querySupportedNew => exact Confirms.unmonitored course
  | done outcome =>
      rw [course.1]
      rfl

theorem Pursues.allowed {stage : Stage} (configured : handshake.Configured)
    (opened : stage = .querySupportedOld → OpenedOnce handshake.settings history)
    (course : handshake.Pursues stage exchanges result after) :
    AllowedFrom handshake.settings history exchanges := by
  by_cases querying : stage = .querySupportedOld
  · subst querying
    exact Switches.allowed configured (opened rfl) course
  · exact allowedFrom_of_unmonitored (course.unmonitored querying)

end Stages

/-! ## Histories -/

/-- What every history keeps to. Whoever may be about to send the divider holds the port as it
was opened first. -/
structure Guarded (settings : Settings) (history : List Exchange) (handshake : Handshake) :
    Prop where
  unchanged : handshake.settings = settings
  configured : handshake.Configured
  unopened : handshake.Unopened
  allowed : AllowedFrom settings [] history
  unanswered : handshake.stage = .openOld → Unanswered settings history
  opened : handshake.stage = .probe ∨ handshake.stage = .querySupportedOld →
    OpenedOnce settings history

theorem guarded_new (settings : Settings) : Guarded settings [] { settings } where
  unchanged := rfl
  configured := configured_new settings
  unopened := unopened_new settings
  allowed := trivial
  unanswered := by
    intro _ exchange membership
    cases membership
  opened := by
    intro stage
    simp at stage

section Steps

variable {result : Except HandshakeError Stage}

theorem Moves.unanswered (unanswered : handshake.stage = .openOld →
      Unanswered handshake.settings history)
    (move : handshake.Moves exchanges result after) (stage : after.stage = .openOld) :
    Unanswered handshake.settings (history ++ exchanges) := by
  obtain ⟨before, rfl, cause, rfl⟩ := move.refused stage
  intro exchange membership
  rcases List.mem_append.mp membership with earlier | now
  · exact unanswered before exchange earlier
  · exact ⟨cause, List.mem_singleton.mp now⟩

theorem Moves.opened (unanswered : handshake.stage = .openOld →
      Unanswered handshake.settings history)
    (opened : handshake.stage = .probe ∨ handshake.stage = .querySupportedOld →
      OpenedOnce handshake.settings history)
    (move : handshake.Moves exchanges result after)
    (stage : after.stage = .probe ∨ after.stage = .querySupportedOld) :
    OpenedOnce handshake.settings (history ++ exchanges) := by
  cases move with
  | failed course =>
      rw [course.stage] at stage
      have before := opened stage
      rcases stage with stage | stage <;> rw [stage] at course
      · exact before.append (Probes.staysOpen course)
      · exact before.append (Switches.staysOpen course)
  | advanced course =>
      cases before : handshake.stage <;> rw [before] at course
      case openOld =>
        cases course with
        | opened echo => exact ⟨history, echo, [], rfl, unanswered before, staysOpen_nil⟩
      case probe => exact (opened (.inl before)).append (Probes.staysOpen course)
      case querySupportedOld => exact (opened (.inr before)).append (Switches.staysOpen course)
      case reopen =>
        cases course with
        | closed closing opening => cases opening; simp [reached] at stage
      case querySupportedNew => cases course <;> simp [reached] at stage
      case done outcome =>
        obtain ⟨-, same, -⟩ := course
        cases same
        simp [reached] at stage

theorem Guarded.moves (guarded : Guarded settings history handshake)
    (move : handshake.Moves exchanges result after) :
    Guarded settings (history ++ exchanges) after := by
  obtain ⟨rfl, configured, unopened, allowed, unanswered, opened⟩ := guarded
  have kept := move.keeps configured unopened
  refine ⟨kept.settings, kept.configured, move.unopened unopened, ?_,
    move.unanswered unanswered, move.opened unanswered opened⟩
  obtain ⟨last, course⟩ := move.pursues
  rw [allowedFrom_append]
  exact ⟨allowed, course.allowed configured fun stage => opened (.inr stage)⟩

end Steps

theorem Reaches.guarded (reached : Reaches settings history handshake) :
    Guarded settings history handshake := by
  induction reached with
  | new => exact guarded_new settings
  | moved reached move inductionHypothesis => exact inductionHypothesis.moves move

/-! ## Runs -/

/-- How many packets for the monitor may still follow in a run. -/
def monitoredLeft : Stage → Nat
  | .openOld | .probe | .querySupportedOld => 1
  | _ => 0

theorem Moves.monitored_le {result : Except HandshakeError Stage}
    (move : handshake.Moves exchanges result after) :
    monitored exchanges ≤ monitoredLeft handshake.stage := by
  obtain ⟨last, course⟩ := move.pursues
  by_cases querying : handshake.stage = .querySupportedOld
  · rw [querying] at course ⊢
    exact Switches.monitored_le course
  · rw [course.unmonitored querying]
    exact Nat.zero_le _

/-- A step that succeeds either wrote no packet for the monitor, or leaves none to be written. -/
theorem Moves.monitored_add_le {next : Stage}
    (move : handshake.Moves exchanges (.ok next) after) :
    monitored exchanges + monitoredLeft after.stage ≤ monitoredLeft handshake.stage := by
  have bounded := move.monitored_le
  have advanced := move.advances
  obtain ⟨last, course⟩ := move.pursues
  -- Only the query at the old rate spends the allowance, and it is never come back to.
  by_cases querying : handshake.stage = .querySupportedOld
  · rw [querying] at course bounded advanced ⊢
    have spent : monitoredLeft after.stage = 0 := by
      rw [advanced.1]
      cases course <;> rfl
    omega
  · have quiet := course.unmonitored querying
    obtain ⟨same, ⟨outcome, rfl⟩ | closer⟩ := advanced
    · simp [quiet, same, monitoredLeft]
    · rw [quiet, same]
      cases stage : handshake.stage <;> cases next <;>
        simp_all [monitoredLeft, Stage.remaining]

theorem Runs.monitored_le {result : Except HandshakeError Report}
    (course : Runs handshake exchanges result after) :
    monitored exchanges ≤ monitoredLeft handshake.stage := by
  induction course with
  | failed move => exact move.monitored_le
  | finished move => exact move.monitored_le
  | onward move unfinished rest inductionHypothesis =>
      have spent := move.monitored_add_le
      rw [monitored_append]
      omega

theorem allows_of_allowedFrom {earlier later : List Exchange} {packet : Bytes} {answer : Answer}
    (allowed : AllowedFrom settings [] (earlier ++ (.write packet, answer) :: later))
    (marked : Bytes.ascii "$qRcmd," <+: packet) : Allows settings earlier packet := by
  rw [allowedFrom_append] at allowed
  have written : Exchange.toMonitor (.write packet, answer) = true := by
    rw [toMonitor_write]
    exact decide_eq_true marked
  obtain ⟨other, same, allows⟩ := allowed.2.1 written
  cases same
  exact allows

/-- Whatever a port answers, and however often steps are tried again, a packet for the monitor is
written only where it is allowed; and a run writes at most one. -/
theorem monitor_written_only_when_allowed {Port : Type} [Answering Port] (settings : Settings)
    (port : Port) :
    (∀ count earlier packet answer later,
      (Dialogue.run (attempts count { settings }) port).transcript.calls =
        earlier ++ (.write packet, answer) :: later →
      Bytes.ascii "$qRcmd," <+: packet → Allows settings earlier packet) ∧
    let calls := (Dialogue.run (run { settings }) port).transcript.calls
    (∀ earlier packet answer later, calls = earlier ++ (.write packet, answer) :: later →
      Bytes.ascii "$qRcmd," <+: packet → Allows settings earlier packet) ∧
    monitored calls ≤ 1 := by
  refine ⟨?_, ?_⟩
  · intro count earlier packet answer later split marked
    have allowed := (reaches_attempts settings count port).guarded.allowed
    rw [split] at allowed
    exact allows_of_allowedFrom allowed marked
  · intro calls
    have course : Runs { settings } calls _ _ := runs_run { settings } port
    refine ⟨?_, course.monitored_le⟩
    intro earlier packet answer later split marked
    have allowed := (Reaches.new.runs course).guarded.allowed
    rw [List.nil_append, split] at allowed
    exact allows_of_allowedFrom allowed marked

/-- The built-in settings, and a stub that answers the query. -/
theorem monitor_written_only_when_allowed_answered :
    let settings : Settings := {}
    let script : Script := { replies := [[], Bytes.ascii "$PacketSize=4000#00"] }
    let calls := (Dialogue.run (run { settings }) script).transcript.calls
    let packet := Packet.frame (Command.setDivider 0x20215068 33).payload
    calls = calls.take 7 ++ (.write packet, .ok []) :: calls.drop 8 ∧
      Bytes.ascii "$qRcmd," <+: packet ∧ Allows settings (calls.take 7) packet ∧
      monitored calls = 1 := by
  intro settings script calls packet
  have split : calls = calls.take 7 ++ (.write packet, .ok []) :: calls.drop 8 := by
    decide +kernel
  have marked : Bytes.ascii "$qRcmd," <+: packet := by decide +kernel
  exact ⟨split, marked,
    (monitor_written_only_when_allowed settings script).2.1 _ _ _ _ split marked,
    by decide +kernel⟩

end Handshake

end BaudSwitch
