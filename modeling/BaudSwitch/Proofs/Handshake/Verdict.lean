import BaudSwitch.Proofs.Handshake.FailStop
import BaudSwitch.Proofs.Handshake.SpeedChange

/-!
# What a run ends with

A run succeeds just when none of its calls fails.  Then the last window that it read decides about
the outcome, and the run reports the speed change just when a packet went out to the monitor.
-/

namespace BaudSwitch

/-- None of the calls failed. -/
def Sound (exchanges : List Exchange) : Prop :=
  ∀ request cause, (request, .error cause) ∉ exchanges

namespace Dialogue

variable {Value : Type}

/-- A dialogue that stops at failures ends with the failure of the call that failed. -/
theorem StopsAtFailure.named {names : PortError → Value → Prop} {dialogue : Dialogue Value}
    (stops : dialogue.StopsAtFailure names) {exchanges : List Exchange} {value : Value}
    (course : dialogue.Yields exchanges value) {request : Call} {cause : PortError}
    (failed : (request, .error cause) ∈ exchanges) : names cause value := by
  induction course with
  | done value => cases failed
  | note course inductionHypothesis => exact inductionHypothesis stops failed
  | pause course inductionHypothesis => exact inductionHypothesis stops failed
  | call answer course inductionHypothesis =>
      cases answer with
      | error reason =>
          obtain ⟨ended, last, named⟩ := stops.1 reason
          rw [last] at course
          obtain ⟨rfl, rfl⟩ := yields_done_iff.mp course
          cases List.mem_singleton.mp failed
          exact named
      | ok bytes =>
          refine inductionHypothesis (stops.2 bytes) (List.mem_of_ne_of_mem ?_ failed)
          simp

end Dialogue

namespace Session

variable {session last : Session} {command : Command} {exchanges : List Exchange}

theorem Requests.failed_call {cause : PortError}
    (asked : session.Requests command exchanges (.error cause) last) :
    ∃ request, (request, .error cause) ∈ exchanges := by
  cases asked with
  | unsent cause => exact ⟨_, List.mem_singleton_self _⟩
  | unread echo cause => exact ⟨_, List.mem_cons_of_mem _ (List.mem_singleton_self _)⟩

/-- A request that succeeds brings what its one window says. -/
theorem Requests.window {body : Bytes}
    (asked : session.Requests command exchanges (.ok body) last) :
    ∃ raw, exchanges.filterMap Exchange.taken? = [raw] ∧
      body = said session.verifyChecksums raw := by
  cases asked with
  | answered echo raw => exact ⟨raw, rfl, rfl⟩

end Session

namespace Handshake

variable {settings : Settings} {handshake after : Handshake} {exchanges history : List Exchange}

/-! ## Failures -/

theorem Pursues.failed_call {stage : Stage} {cause : PortError}
    (course : handshake.Pursues stage exchanges (.error (.port cause)) after) :
    ∃ request, (request, .error cause) ∈ exchanges := by
  have last {earlier : List Exchange} (request : Call) :
      ∃ failing, (failing, .error cause) ∈ earlier ++ [(request, .error cause)] :=
    ⟨request, List.mem_append_right _ (List.mem_singleton_self _)⟩
  cases stage with
  | openOld =>
      cases course with
      | refused => exact ⟨_, List.mem_singleton_self _⟩
  | probe =>
      cases course with
      | failed held asked => exact asked.failed_call
      | unacknowledged => exact last _
  | querySupportedOld =>
      cases course with
      | failed held asked => exact asked.failed_call
      | unacknowledged => exact last _
      | untold held asked answered echo reachable told =>
          obtain ⟨request, failed⟩ := told.failed_call
          exact ⟨request, List.mem_append_right _ (List.mem_cons_of_mem _ failed)⟩
  | reopen =>
      cases course with
      | unclosed closing =>
          cases closing with
          | failed => exact ⟨_, List.mem_singleton_self _⟩
      | closed closing opening =>
          cases opening with
          | refused => exact last _
  | querySupportedNew =>
      cases course with
      | ungreeted => exact ⟨_, List.mem_singleton_self _⟩
      | failed held echo asked =>
          obtain ⟨request, failed⟩ := asked.failed_call
          exact ⟨request, List.mem_cons_of_mem _ failed⟩
      | silentUnclosed => exact last _
      | unacknowledged => exact last _
      | answeredUnclosed => exact ⟨.close, by simp⟩
  | done outcome => cases course.2.1

theorem Moves.failed_call {cause : PortError}
    (move : handshake.Moves exchanges (.error (.port cause)) after) :
    ∃ request, (request, .error cause) ∈ exchanges := by
  cases move with
  | failed course => exact course.failed_call

theorem Runs.failed_call {result : Except HandshakeError Report} {cause : PortError}
    (course : Runs handshake exchanges result after) (failed : result = .error (.port cause)) :
    ∃ request, (request, .error cause) ∈ exchanges := by
  induction course with
  | failed move =>
      cases failed
      exact move.failed_call
  | finished move => cases failed
  | onward move unfinished rest inductionHypothesis =>
      obtain ⟨request, inside⟩ := inductionHypothesis failed
      exact ⟨request, List.mem_append_right _ inside⟩

/-- With valid settings, a new handshake succeeds unless a call fails. -/
theorem run_succeeds_iff {Port : Type} [Answering Port] (valid : settings.Valid) (port : Port) :
    let ended := Dialogue.run (run { settings }) port
    (∃ report, ended.value.1 = .ok report) ↔ Sound ended.transcript.calls := by
  intro ended
  have course : Runs { settings } ended.transcript.calls ended.value.1 ended.value.2 :=
    runs_run { settings } port
  constructor
  · rintro ⟨report, succeeded⟩ request cause failed
    have named : ended.value.1 = .error (.port cause) :=
      (failStop_run { settings }).named (Dialogue.yields_run _ _) failed
    cases succeeded.symm.trans named
  · intro sound
    cases result : ended.value.1 with
    | ok report => exact ⟨report, rfl⟩
    | error failure =>
        cases failure with
        | port cause =>
            obtain ⟨request, failed⟩ := course.failed_call result
            exact absurd failed (sound request cause)
        | baudOutOfRange baud clock =>
            exact absurd (course.unreachable (configured_new settings) (unopened_new settings)
              result) (divider?_ne_none_of_valid valid)
        | notOpen => exact absurd result (course.error_ne_notOpen (ready_new settings))

/-! ## Outcomes -/

/-- The outcome that the last window decides for. -/
def outcomeOf (verify : Bool) (raw : Bytes) : Outcome :=
  if Session.said verify raw = [] then .noResponse else .confirmed

theorem Confirms.decides {outcome : Outcome} (configured : handshake.Configured)
    (course : handshake.Confirms exchanges (.ok (.done outcome)) after) :
    ∃ raw, exchanges.filterMap Exchange.taken? = [raw] ∧
      outcome = outcomeOf handshake.settings.verifyChecksums raw := by
  cases course with
  | @silent session _ _ held echo asked farewell =>
      have verifies : (session.booked .acknowledgement).verifyChecksums =
          handshake.settings.verifyChecksums := (configured session held).verifyChecksums
      obtain ⟨raw, taken, silent⟩ := asked.window
      rw [verifies] at silent
      refine ⟨raw, ?_, (if_pos silent.symm).symm⟩
      rw [List.filterMap_append, List.filterMap_cons_none rfl, taken]
      rfl
  | @confirmed session _ _ _ held echo asked answered again farewell =>
      have verifies : (session.booked .acknowledgement).verifyChecksums =
          handshake.settings.verifyChecksums := (configured session held).verifyChecksums
      obtain ⟨raw, taken, rfl⟩ := asked.window
      rw [verifies] at answered
      refine ⟨raw, ?_, (if_neg answered).symm⟩
      rw [List.filterMap_append, List.filterMap_cons_none rfl, taken]
      rfl

/-- The step that tells the outcome is the one that asks at the new rate. -/
theorem Moves.decides {outcome : Outcome} (configured : handshake.Configured)
    (unfinished : ∀ outcome, handshake.stage ≠ .done outcome)
    (move : handshake.Moves exchanges (.ok (.done outcome)) after) :
    ∃ raw, exchanges.filterMap Exchange.taken? = [raw] ∧
      outcome = outcomeOf handshake.settings.verifyChecksums raw := by
  cases move with
  | advanced course =>
      cases stage : handshake.stage <;> rw [stage] at course
      case querySupportedNew => exact Confirms.decides configured course
      case done ended => exact absurd stage (unfinished ended)
      case reopen =>
        cases course with
        | closed closing opening => cases opening
      all_goals cases course

/-- The last window of a run decides about its outcome. -/
theorem Runs.decides {result : Except HandshakeError Report} {report : Report}
    (configured : handshake.Configured) (unopened : handshake.Unopened)
    (unfinished : ∀ outcome, handshake.stage ≠ .done outcome)
    (course : Runs handshake exchanges result after) (reported : result = .ok report) :
    ∃ earlier raw, exchanges.filterMap Exchange.taken? = earlier ++ [raw] ∧
      report.outcome = outcomeOf handshake.settings.verifyChecksums raw := by
  induction course with
  | failed move => cases reported
  | finished move =>
      cases reported
      obtain ⟨raw, taken, same⟩ := move.decides configured unfinished
      refine ⟨[], raw, taken, ?_⟩
      rw [← same, report, move.advances.1]
      rfl
  | @onward _ first _ _ _ _ _ move going rest inductionHypothesis =>
      have kept := move.keeps configured unopened
      have stillUnfinished := move.advances.1.symm ▸ going
      obtain ⟨earlier, raw, taken, same⟩ := inductionHypothesis kept.configured
        (move.unopened unopened) stillUnfinished reported
      refine ⟨first.filterMap Exchange.taken? ++ earlier, raw, ?_, ?_⟩
      · rw [List.filterMap_append, taken, List.append_assoc]
      · rw [← kept.settings]
        exact same

/-! ## The speed change -/

/-- As long as no call fails, the speed change is noted just when a packet went to the monitor. -/
theorem Noted.sent_iff (noted : Noted settings history handshake) (sound : Sound history) :
    handshake.speedChangeSent = true ↔ toldMonitor history ≠ [] := by
  rw [noted.sent]
  constructor
  · rintro ⟨raw, heard⟩
    exact heard.told
  · intro told
    obtain ⟨cause | raw, followed⟩ := noted.answered told
    · obtain ⟨packet, echo, limit, -, behind⟩ := followed
      exact absurd (behind.mem (by simp)) (sound (.read limit) cause)
    · exact ⟨raw, followed⟩

end Handshake

end BaudSwitch
