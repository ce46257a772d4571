import BaudSwitch.Proofs.Handshake.Ownership

/-!
# Runs behind any number of steps

A handshake may be taken through its stages step by step, failed steps tried again, and then be
left to run.  The history of such a run begins with the first step.  Whatever was written in it is
an acknowledgement or the packet of a command, and the run reports only at the end, where no
session is held any more.
-/

namespace BaudSwitch

/-! ## What is written at all -/

namespace Exchange

/-- What this writes, even in vain, is an acknowledgement or the packet of a command. -/
def Worded : Exchange → Prop
  | (.write bytes, _) =>
      bytes = Packet.acknowledgement ∨ ∃ command : Command, bytes = Packet.frame command.payload
  | _ => True

@[simp]
theorem worded_connect (port : String) (baud : UInt32) (window : UInt64) (answer : Answer) :
    Worded (.connect port baud window, answer) := trivial

@[simp]
theorem worded_acknowledgement (answer : Answer) :
    Worded (.write Packet.acknowledgement, answer) := .inl rfl

@[simp]
theorem worded_packet (command : Command) (answer : Answer) :
    Worded (.write (Session.packet command), answer) := .inr ⟨command, rfl⟩

@[simp]
theorem worded_read (limit : UInt64) (answer : Answer) : Worded (.read limit, answer) := trivial

@[simp]
theorem worded_close (answer : Answer) : Worded (.close, answer) := trivial

end Exchange

/-- Nothing but acknowledgements and packets of commands is written. -/
def Worded (exchanges : List Exchange) : Prop :=
  ∀ exchange ∈ exchanges, Exchange.Worded exchange

@[simp]
theorem worded_nil : Worded [] := by
  simp [Worded]

@[simp]
theorem worded_cons (exchange : Exchange) (rest : List Exchange) :
    Worded (exchange :: rest) ↔ Exchange.Worded exchange ∧ Worded rest :=
  List.forall_mem_cons

@[simp]
theorem worded_append (first second : List Exchange) :
    Worded (first ++ second) ↔ Worded first ∧ Worded second :=
  List.forall_mem_append

theorem Worded.written {exchanges : List Exchange} (worded : Worded exchanges) {bytes : Bytes}
    (membership : bytes ∈ exchanges.filterMap Exchange.written?) :
    bytes = Packet.acknowledgement ∨
      ∃ command : Command, bytes = Packet.frame command.payload := by
  obtain ⟨exchange, made, same⟩ := List.mem_filterMap.mp membership
  obtain ⟨echo, rfl⟩ := Exchange.written?_eq_some_iff.mp same
  exact worded _ made

namespace Handshake

variable {settings : Settings} {handshake after : Handshake} {session : Session}
  {exchanges history : List Exchange}

theorem requests_worded {command : Command} {last : Session} {heard : Except PortError Bytes}
    (asked : session.Requests command exchanges heard last) : Worded exchanges := by
  cases asked <;> simp

section Stages

variable {result : Except HandshakeError Stage}

theorem Opens.worded {baud : UInt32} {next : Stage}
    (course : handshake.Opens baud next exchanges result after) : Worded exchanges := by
  cases course <;> simp

theorem Probes.worded (course : handshake.Probes exchanges result after) : Worded exchanges := by
  cases course with
  | notOpen => exact worded_nil
  | failed held asked => exact requests_worded asked
  | unacknowledged held asked => simp [requests_worded asked]
  | probed held asked => simp [requests_worded asked]

theorem Switches.worded (course : handshake.Switches exchanges result after) :
    Worded exchanges := by
  cases course with
  | notOpen => exact worded_nil
  | failed held asked => exact requests_worded asked
  | silent held asked => exact requests_worded asked
  | unacknowledged held asked => simp [requests_worded asked]
  | outOfRange held asked => simp [requests_worded asked]
  | untold held asked answered echo reachable told =>
      simp [requests_worded asked, requests_worded told]
  | switched held asked answered echo reachable told =>
      simp [requests_worded asked, requests_worded told]

theorem Reopens.worded (course : handshake.Reopens exchanges result after) :
    Worded exchanges := by
  cases course with
  | unclosed closing =>
      cases closing
      simp
  | closed closing opening =>
      have wording := opening.worded
      cases closing with
      | absent => exact wording
      | closed => simp [wording]

theorem Confirms.worded (course : handshake.Confirms exchanges result after) :
    Worded exchanges := by
  cases course with
  | notOpen => exact worded_nil
  | ungreeted => simp
  | failed held echo asked => simp [requests_worded asked]
  | silentUnclosed held echo asked => simp [requests_worded asked]
  | silent held echo asked => simp [requests_worded asked]
  | unacknowledged held echo asked => simp [requests_worded asked]
  | answeredUnclosed held echo asked => simp [requests_worded asked]
  | confirmed held echo asked => simp [requests_worded asked]

theorem Moves.worded (move : handshake.Moves exchanges result after) : Worded exchanges := by
  obtain ⟨last, course⟩ := move.pursues
  cases stage : handshake.stage <;> rw [stage] at course
  case openOld => exact Opens.worded course
  case probe => exact Probes.worded course
  case querySupportedOld => exact Switches.worded course
  case reopen => exact Reopens.worded course
  case querySupportedNew => exact Confirms.worded course
  case done outcome =>
    rw [course.1]
    exact worded_nil

end Stages

/-! ## Histories and their ends -/

theorem Reaches.worded (reached : Reaches settings history handshake) : Worded history := by
  induction reached with
  | new => exact worded_nil
  | moved reached move inductionHypothesis =>
      exact (worded_append _ _).mpr ⟨inductionHypothesis, move.worded⟩

theorem Reaches.owns (reached : Reaches settings history handshake) : handshake.Owns := by
  induction reached with
  | new => exact owns_new settings
  | moved reached move inductionHypothesis =>
      have guarded := reached.guarded
      exact move.owns guarded.configured guarded.unopened inductionHypothesis

theorem Reaches.keeps (reached : Reaches settings history handshake) :
    ({ settings } : Handshake).Keeps history handshake := by
  induction reached with
  | new => exact keeps_nothing (configured_new settings)
  | moved reached move inductionHypothesis =>
      have guarded := reached.guarded
      exact inductionHypothesis.trans (move.keeps guarded.configured guarded.unopened)

/-- Only the end of a handshake is reported. -/
theorem Runs.finishes {result : Except HandshakeError Report} {report : Report}
    (course : Runs handshake exchanges result after) (reported : result = .ok report) :
    report = after.report ∧ ∃ outcome, after.stage = .done outcome := by
  induction course with
  | failed move => cases reported
  | finished move =>
      cases reported
      exact ⟨rfl, _, move.advances.1⟩
  | onward move unfinished rest inductionHypothesis => exact inductionHypothesis reported

section Completion

variable {Port : Type} [Answering Port] (settings : Settings) (port : Port) (count : Nat)

/-- The run that follows so many steps. -/
def completion : Run Port (Except HandshakeError Report × Handshake) :=
  Dialogue.run (run (handshakeAfter settings port count)) (tried settings port count).port

/-- All calls of these steps and of the run behind them, with their answers. -/
def wholeHistory : List Exchange :=
  (tried settings port count).transcript.calls ++ (completion settings port count).transcript.calls

theorem reaches_completion :
    Reaches settings (wholeHistory settings port count)
      (completion settings port count).value.2 :=
  (reaches_attempts settings count port).runs (runs_run _ _)

theorem answered_wholeHistory :
    Dialogue.Answered port (wholeHistory settings port count) := by
  rw [wholeHistory, Dialogue.answered_append, tried, Dialogue.portAfter_run]
  exact ⟨Dialogue.answered_run _ _, Dialogue.answered_run _ _⟩

theorem portAfter_wholeHistory :
    Dialogue.portAfter port (wholeHistory settings port count) =
      (completion settings port count).port := by
  rw [wholeHistory, Dialogue.portAfter, List.foldl_append, ← Dialogue.portAfter,
    ← Dialogue.portAfter, tried, Dialogue.portAfter_run]
  exact Dialogue.portAfter_run _ _

variable {settings port count} in
/-- What a run reports is what the handshake noted, and by then its port is closed. -/
theorem completion_ends {report : Report}
    (completed : (completion settings port count).value.1 = .ok report) :
    report = (completion settings port count).value.2.report ∧
      (completion settings port count).value.2.session = none := by
  have course : Runs _ _ _ (completion settings port count).value.2 :=
    runs_run (handshakeAfter settings port count) (tried settings port count).port
  obtain ⟨same, outcome, stage⟩ := course.finishes completed
  have owns := (reaches_completion settings port count).owns
  unfold Owns at owns
  rw [stage] at owns
  exact ⟨same, rate_eq_none_iff.mp owns⟩

end Completion

end Handshake

end BaudSwitch
