import BaudSwitch.Proofs.Handshake.Books
import BaudSwitch.Proofs.Port.Script

/-!
# Failures of a run

A run ends at the first call that fails, with the failure of that call, and until then it does
what it would have done had no call failed.  The two failures that no call brings, a rate out of
range and a port that is not open, have their own causes: settings that are not valid, and
nothing.
-/

namespace BaudSwitch

open Work

namespace Session

theorem failStop_tell (notice : Notice) : FailStop id (tell notice) := by
  intro session
  trivial

theorem failStop_ask (request : Call) : FailStop id (ask request) := by
  intro session
  exact ⟨fun cause => ⟨(.error cause, session), rfl, rfl⟩, fun bytes => trivial⟩

theorem failStop_enter (traffic : Traffic) : FailStop id (enter traffic) :=
  failStop_modify _

theorem failStop_send (command : Command) : FailStop id (send command) :=
  (failStop_tell _).bind fun _ => (failStop_ask _).bind fun _ => failStop_enter _

theorem failStop_acknowledge : FailStop id acknowledge :=
  (failStop_tell _).bind fun _ => (failStop_ask _).bind fun _ => failStop_enter _

theorem failStop_receive : FailStop id receive := by
  refine failStop_get.bind fun session => (failStop_ask _).bind fun raw =>
    (failStop_tell _).bind fun _ => failStop_get.bind fun session => ?_
  have entering : ∀ body : Bytes, FailStop id
      (do enter (.reply raw.length (body != [])); return body) :=
    fun body => (failStop_enter _).bind fun _ => failStop_pure body
  cases payload session.verifyChecksums raw with
  | ok body => exact (failStop_pure body).bind entering
  | error cause => exact (failStop_tell _).bind fun _ => (failStop_pure _).bind entering

theorem failStop_request (command : Command) : FailStop id (request command) :=
  (failStop_tell _).bind fun _ => (failStop_send command).bind fun _ => failStop_receive

end Session

namespace Handshake

theorem failStop_tell (notice : Notice) : FailStop .port (tell notice) := by
  intro handshake
  trivial

theorem failStop_settle : FailStop .port settle := by
  intro handshake
  trivial

theorem failStop_withSession {Value : Type} {work : SessionM Value} (stops : FailStop id work) :
    FailStop .port (withSession work) := by
  intro handshake
  cases held : handshake.session with
  | none =>
      rw [withSession_of_absent held]
      trivial
  | some session =>
      rw [withSession_of_held held]
      refine (stops session).bind ?_ fun ended => trivial
      rintro cause ⟨result, last⟩ named
      cases named
      exact ⟨_, rfl, rfl⟩

theorem failStop_openAt (baud : UInt32) : FailStop .port (openAt baud) := by
  intro handshake
  rw [openAt_apply]
  exact ⟨fun cause => ⟨_, rfl, rfl⟩, fun bytes => trivial⟩

theorem failStop_closeSession : FailStop .port closeSession := by
  intro handshake
  cases held : handshake.session with
  | none =>
      rw [closeSession_of_absent held]
      trivial
  | some session =>
      rw [closeSession_of_held held]
      exact ⟨fun cause => ⟨_, rfl, rfl⟩, fun bytes => trivial⟩

theorem failStop_request (command : Command) :
    FailStop .port (withSession (Session.request command)) :=
  failStop_withSession (Session.failStop_request command)

theorem failStop_acknowledge : FailStop .port (withSession Session.acknowledge) :=
  failStop_withSession Session.failStop_acknowledge

theorem failStop_switchSpeed : FailStop .port switchSpeed := by
  refine failStop_get.bind fun handshake => (failStop_request _).bind fun body => ?_
  split
  · exact failStop_get.bind fun _ => failStop_tell _
  · refine failStop_acknowledge.bind fun _ => (failStop_tell _).bind fun _ => ?_
    cases handshake.settings.divider? with
    | none => exact failStop_throw _
    | some divider =>
        refine (failStop_request _).bind fun reply => ?_
        cases consoleOutput? reply with
        | none => exact failStop_modify _
        | some output => exact (failStop_tell _).bind fun _ => failStop_modify _

theorem failStop_confirm : FailStop .port confirm := by
  refine failStop_acknowledge.bind fun _ => (failStop_request _).bind fun body => ?_
  split
  · exact failStop_closeSession.bind fun _ => failStop_pure _
  · exact failStop_acknowledge.bind fun _ => failStop_settle.bind fun _ =>
      failStop_closeSession.bind fun _ => failStop_pure _

theorem failStop_perform (stage : Stage) : FailStop .port (perform stage) := by
  cases stage with
  | openOld =>
      exact failStop_get.bind fun _ => (failStop_tell _).bind fun _ =>
        (failStop_openAt _).bind fun _ => failStop_pure _
  | probe =>
      exact (failStop_request _).bind fun _ => failStop_acknowledge.bind fun _ => failStop_pure _
  | querySupportedOld => exact failStop_switchSpeed.bind fun _ => failStop_pure _
  | reopen =>
      exact failStop_closeSession.bind fun _ => failStop_settle.bind fun _ =>
        failStop_get.bind fun _ => (failStop_tell _).bind fun _ =>
          (failStop_openAt _).bind fun _ => failStop_pure _
  | querySupportedNew => exact failStop_confirm.bind fun _ => failStop_pure _
  | done outcome => exact failStop_pure _

theorem failStop_step : FailStop .port step :=
  failStop_get.bind fun _ => (failStop_perform _).bind fun _ => (failStop_tell _).bind fun _ =>
    (failStop_modify _).bind fun _ => failStop_pure _

theorem failStop_steps (count : Nat) : FailStop .port (steps count) := by
  induction count with
  | zero => exact failStop_pure _
  | succ count inductionHypothesis =>
      refine failStop_step.bind fun next => ?_
      cases next with
      | done outcome => exact failStop_pure _
      | _ => exact inductionHypothesis

theorem failStop_run : FailStop .port run :=
  (failStop_steps 5).bind fun _ => failStop_get.bind fun _ => failStop_pure _

/-! ## Failures that no call brings -/

section OwnFailures

variable {handshake after : Handshake} {exchanges : List Exchange}

/-- The port is open wherever a stage is about to use it. -/
def Ready (handshake : Handshake) : Prop :=
  handshake.stage = .probe ∨ handshake.stage = .querySupportedOld ∨
    handshake.stage = .querySupportedNew → handshake.session ≠ none

theorem Moves.ready {next : Stage} (move : handshake.Moves exchanges (.ok next) after) :
    after.Ready := by
  cases move with
  | advanced course =>
      intro speaking
      cases stage : handshake.stage <;> rw [stage] at course
      case openOld =>
        cases course with
        | opened echo => exact Option.some_ne_none _
      case probe =>
        cases course with
        | probed held asked echo => exact Option.some_ne_none _
      case reopen =>
        cases course with
        | closed closing opening =>
            cases opening with
            | opened echo => exact Option.some_ne_none _
      case done outcome =>
        obtain ⟨-, same, -⟩ := course
        cases same
        simp [reached] at speaking
      all_goals cases course <;> simp [reached] at speaking

theorem Moves.error_ne_notOpen {cause : HandshakeError} (ready : handshake.Ready)
    (move : handshake.Moves exchanges (.error cause) after) : cause ≠ .notOpen := by
  rintro rfl
  cases move with
  | failed course =>
      cases stage : handshake.stage <;> rw [stage] at course
      case openOld => cases course
      case probe =>
        cases course with
        | notOpen absent => exact ready (.inl stage) absent
      case querySupportedOld =>
        cases course with
        | notOpen absent => exact ready (.inr (.inl stage)) absent
      case reopen =>
        cases course with
        | unclosed closing => cases closing
        | closed closing opening => cases opening
      case querySupportedNew =>
        cases course with
        | notOpen absent => exact ready (.inr (.inr stage)) absent
      case done outcome => cases course.2.1

/-- The rate is found out of range only where there is no divider for it. -/
theorem Moves.unreachable {baud clock : UInt32}
    (move : handshake.Moves exchanges (.error (.baudOutOfRange baud clock)) after) :
    handshake.settings.divider? = none := by
  cases move with
  | failed course =>
      cases stage : handshake.stage <;> rw [stage] at course
      case querySupportedOld =>
        cases course with
        | outOfRange held asked answered echo unreachable => exact unreachable
      case reopen =>
        cases course with
        | unclosed closing => cases closing
        | closed closing opening => cases opening
      case done outcome => cases course.2.1
      all_goals cases course

theorem Runs.error_ne_notOpen {result : Except HandshakeError Report} (ready : handshake.Ready)
    (course : Runs handshake exchanges result after) : result ≠ .error .notOpen := by
  induction course with
  | failed move =>
      intro same
      exact move.error_ne_notOpen ready (Except.error.inj same)
  | finished move =>
      intro same
      cases same
  | onward move unfinished rest inductionHypothesis => exact inductionHypothesis move.ready

theorem Runs.unreachable {result : Except HandshakeError Report} {baud clock : UInt32}
    (configured : handshake.Configured) (unopened : handshake.Unopened)
    (course : Runs handshake exchanges result after)
    (outOfRange : result = .error (.baudOutOfRange baud clock)) :
    handshake.settings.divider? = none := by
  induction course with
  | failed move =>
      cases outOfRange
      exact move.unreachable
  | finished move => cases outOfRange
  | onward move unfinished rest inductionHypothesis =>
      have kept := move.keeps configured unopened
      rw [← kept.settings]
      exact inductionHypothesis kept.configured (move.unopened unopened) outOfRange

end OwnFailures

theorem ready_new (settings : Settings) : ({ settings } : Handshake).Ready := by
  intro speaking
  simp at speaking

theorem divider?_ne_none_of_valid {settings : Settings} (valid : settings.Valid) :
    settings.divider? ≠ none := by
  intro unreachable
  simp only [Settings.Valid, Settings.defect?, unreachable, if_true] at valid
  split at valid <;> try cases valid
  split at valid <;> try cases valid
  split at valid <;> try cases valid
  split at valid <;> cases valid

/-- A run does what the run without faults does, and up to the first call that fails only: it
ends there, with that failure.  Valid settings never find their rate out of range, and no run
finds its port closed. -/
theorem run_stops_at_failure (settings : Settings) (script : Script) :
    let sound := Dialogue.run (run { settings }) script.faultless
    let actual := Dialogue.run (run { settings }) script
    ((script.Grants sound.transcript.requests ∧ actual.value = sound.value ∧
        actual.transcript = sound.transcript) ∨
      ∃ earlier call answer later cause,
        sound.transcript.calls = earlier ++ (call, answer) :: later ∧
        script.Grants (earlier.map Prod.fst) ∧
        script.refusal? (earlier.map Prod.fst) call = some cause ∧
        actual.value.1 = .error (.port cause) ∧
        actual.transcript.calls = earlier ++ [(call, .error cause)] ∧
        actual.transcript.events = earlier.map Prod.fst) ∧
      (settings.Valid → ∀ baud clock, actual.value.1 ≠ .error (.baudOutOfRange baud clock)) ∧
      actual.value.1 ≠ .error .notOpen := by
  intro sound actual
  have course : Runs { settings } actual.transcript.calls actual.value.1 actual.value.2 :=
    runs_run { settings } script
  refine ⟨Script.run_of_stopsAtFailure (failStop_run { settings }) script, ?_, ?_⟩
  · intro valid baud clock outOfRange
    exact divider?_ne_none_of_valid valid
      (course.unreachable (configured_new settings) (unopened_new settings) outOfRange)
  · exact course.error_ne_notOpen (ready_new settings)

/-- The third write, the first query, is made to fail. -/
theorem run_stops_at_failure_query :
    let settings : Settings := {}
    let script : Script :=
      { replies := [Bytes.ascii "$OK#9a"]
        fault := fun kind before =>
          if kind = .write ∧ before = 2 then some (.io "unplugged") else none }
    let actual := Dialogue.run (run { settings }) script
    settings.Valid ∧ actual.value.1 = .error (.port (.io "unplugged")) ∧
      actual.transcript.events.length = 4 ∧
      ∀ baud clock, actual.value.1 ≠ .error (.baudOutOfRange baud clock) := by
  intro settings script actual
  have valid : settings.Valid := by decide
  exact ⟨valid, by decide +kernel, by decide +kernel,
    (run_stops_at_failure settings script).2.1 valid⟩

end Handshake

end BaudSwitch
