import BaudSwitch.Proofs.Handshake.Completion
import BaudSwitch.Proofs.Port.Terminal

/-!
# Handshakes in turns

A handshake reads once behind every packet and nowhere else, and its acknowledgements ask for no
reply.  So it keeps to the turns of a line, and a stub whose replies come in time leads it through
the same steps to the same report as a script with these replies, however they are cut.
-/

namespace BaudSwitch

theorem Session.Requests.converses {session last : Session} {settings : Settings}
    {command : Command} {exchanges : List Exchange} {heard : Except PortError Bytes}
    (follows : session.Follows settings)
    (asked : session.Requests command exchanges heard last) :
    Converses settings.line .held exchanges .held := by
  cases asked with
  | unsent cause => exact .failed (.asking command.payload) cause
  | unread echo cause =>
      rw [follows.maxResponse]
      exact .succeeded (.asking command.payload) echo (.failed .reading cause)
  | answered echo raw =>
      rw [follows.maxResponse]
      exact .succeeded (.asking command.payload) echo (Admits.reading.converses _)

/-- A request behind the acknowledgement of another. -/
theorem Session.converses_again {session last final : Session} {settings : Settings}
    {command other : Command} {exchanges more : List Exchange}
    {heard answered : Except PortError Bytes} (follows : session.Follows settings)
    (asked : session.Requests command exchanges heard last) (echo : Bytes)
    (askedAgain : (last.booked .acknowledgement).Requests other more answered final) :
    Converses settings.line .held
      (exchanges ++ (.write Packet.acknowledgement, .ok echo) :: more) .held := by
  have followed := (follows.grows asked.grows).grows (Session.grows_acknowledged last echo)
  apply (asked.converses follows).trans
  exact .succeeded .acknowledging echo (askedAgain.converses followed)

namespace Handshake

/-- Whether the handshake holds the port between its steps. -/
def phase (handshake : Handshake) : Phase :=
  handshake.session.elim .vacant fun _ => .held

/-- The handshake keeps to the turns of its line. -/
def TakesTurns (handshake : Handshake) (exchanges : List Exchange) (after : Handshake) : Prop :=
  Converses handshake.settings.line handshake.phase exchanges after.phase

variable {settings : Settings} {handshake after : Handshake} {session : Session}
  {exchanges history : List Exchange}

theorem phase_ne_asked (handshake : Handshake) : handshake.phase ≠ .asked := by
  rw [phase]
  cases handshake.session <;> simp

theorem takesTurns_of_held (held : handshake.session = some session)
    (speaks : Converses handshake.settings.line .held exchanges after.phase) :
    handshake.TakesTurns exchanges after := by
  rw [TakesTurns, phase, held]
  exact speaks

/-! ## Stages in turns -/

section Stages

variable {result : Except HandshakeError Stage}

theorem Opens.takesTurns {baud : UInt32} {next : Stage}
    (course : handshake.Opens baud next exchanges result after) :
    handshake.TakesTurns exchanges after := by
  have opening : Admits handshake.settings.line handshake.phase (handshake.opening baud) .held :=
    .opening handshake.phase_ne_asked baud
  cases course with
  | refused cause => exact .failed opening cause
  | opened echo => exact opening.converses (.ok echo)

theorem Probes.takesTurns (configured : handshake.Configured)
    (course : handshake.Probes exchanges result after) : handshake.TakesTurns exchanges after := by
  cases course with
  | notOpen => exact .done handshake.phase
  | failed held asked =>
      apply takesTurns_of_held held
      exact asked.converses (configured _ held)
  | unacknowledged held asked cause =>
      apply takesTurns_of_held held
      apply (asked.converses (configured _ held)).trans
      exact Admits.acknowledging.converses (.error cause)
  | probed held asked echo =>
      apply takesTurns_of_held held
      apply (asked.converses (configured _ held)).trans
      exact Admits.acknowledging.converses (.ok echo)

theorem Switches.takesTurns (configured : handshake.Configured)
    (course : handshake.Switches exchanges result after) :
    handshake.TakesTurns exchanges after := by
  cases course with
  | notOpen => exact .done handshake.phase
  | failed held asked =>
      apply takesTurns_of_held held
      exact asked.converses (configured _ held)
  | silent held asked =>
      apply takesTurns_of_held held
      exact asked.converses (configured _ held)
  | unacknowledged held asked answered cause =>
      apply takesTurns_of_held held
      apply (asked.converses (configured _ held)).trans
      exact Admits.acknowledging.converses (.error cause)
  | outOfRange held asked answered echo unreachable =>
      apply takesTurns_of_held held
      apply (asked.converses (configured _ held)).trans
      exact Admits.acknowledging.converses (.ok echo)
  | untold held asked answered echo reachable told =>
      apply takesTurns_of_held held
      exact Session.converses_again (configured _ held) asked echo told
  | switched held asked answered echo reachable told =>
      apply takesTurns_of_held held
      exact Session.converses_again (configured _ held) asked echo told

theorem Reopens.takesTurns (course : handshake.Reopens exchanges result after) :
    handshake.TakesTurns exchanges after := by
  cases course with
  | unclosed closing =>
      cases closing with
      | failed held cause =>
          apply takesTurns_of_held held
          exact .failed .closing cause
  | closed closing opening =>
      cases closing with
      | absent absent => exact opening.takesTurns
      | closed held echo =>
          apply takesTurns_of_held held
          exact .succeeded .closing echo opening.takesTurns

theorem Confirms.takesTurns (configured : handshake.Configured)
    (course : handshake.Confirms exchanges result after) :
    handshake.TakesTurns exchanges after := by
  -- All courses but the first two go through the greeting and the query.
  have queried {session last : Session} {asking : List Exchange} {heard : Except PortError Bytes}
      (held : handshake.session = some session) (echo : Bytes)
      (asked : (session.booked .acknowledgement).Requests .querySupported asking heard last) :
      Converses handshake.settings.line .held
        ((.write Packet.acknowledgement, .ok echo) :: asking) .held := by
    have follows := (configured session held).grows (Session.grows_acknowledged session echo)
    exact .succeeded .acknowledging echo (asked.converses follows)
  cases course with
  | notOpen => exact .done handshake.phase
  | ungreeted held cause =>
      apply takesTurns_of_held held
      exact .failed .acknowledging cause
  | failed held echo asked =>
      apply takesTurns_of_held held
      exact queried held echo asked
  | silentUnclosed held echo asked cause =>
      apply takesTurns_of_held held
      exact (queried held echo asked).trans (.failed .closing cause)
  | silent held echo asked farewell =>
      apply takesTurns_of_held held
      exact (queried held echo asked).trans (Admits.closing.converses (.ok farewell))
  | unacknowledged held echo asked answered cause =>
      apply takesTurns_of_held held
      exact (queried held echo asked).trans (.failed .acknowledging cause)
  | answeredUnclosed held echo asked answered again cause =>
      apply takesTurns_of_held held
      apply (queried held echo asked).trans
      exact .succeeded .acknowledging again (.failed .closing cause)
  | confirmed held echo asked answered again farewell =>
      apply takesTurns_of_held held
      apply (queried held echo asked).trans
      exact .succeeded .acknowledging again (Admits.closing.converses (.ok farewell))

theorem Pursues.takesTurns {stage : Stage} (configured : handshake.Configured)
    (course : handshake.Pursues stage exchanges result after) :
    handshake.TakesTurns exchanges after := by
  cases stage with
  | openOld => exact Opens.takesTurns course
  | probe => exact Probes.takesTurns configured course
  | querySupportedOld => exact Switches.takesTurns configured course
  | reopen => exact Reopens.takesTurns course
  | querySupportedNew => exact Confirms.takesTurns configured course
  | done outcome =>
      obtain ⟨rfl, -, rfl⟩ := course
      exact .done _

theorem Moves.takesTurns (configured : handshake.Configured)
    (move : handshake.Moves exchanges result after) : handshake.TakesTurns exchanges after := by
  cases move with
  | failed course => exact course.takesTurns configured
  | advanced course =>
      -- Moving on to a stage neither opens nor closes the port.
      have turns := course.takesTurns configured
      exact turns

end Stages

/-- Whatever a handshake has been through, it kept to the turns. -/
theorem Reaches.converses (reached : Reaches settings history handshake) :
    Converses settings.line .vacant history handshake.phase := by
  induction reached with
  | new => exact .done .vacant
  | moved reached move inductionHypothesis =>
      have guarded := reached.guarded
      have turns := move.takesTurns guarded.configured
      rw [TakesTurns, guarded.unchanged] at turns
      exact inductionHypothesis.trans turns

/-! ## Replies in any chunks -/

section Ports

variable {Port Other : Type} [Answering Port] [Answering Other] {port : Port} {other : Other}
  {replies : List Bytes} {count : Nat}

/-- Where two ports bring the same replies, both take a handshake through the same. -/
theorem agree_of_served (served : Served replies (wholeHistory settings port count))
    (alsoServed : Served replies (wholeHistory settings other count)) :
    ((tried settings other count).value = (tried settings port count).value ∧
      (tried settings other count).transcript.calls =
        (tried settings port count).transcript.calls) ∧
    (completion settings other count).value = (completion settings port count).value ∧
      (completion settings other count).transcript.calls =
        (completion settings port count).transcript.calls := by
  have tries : Dialogue.Yields (attempts count { settings })
      (tried settings port count).transcript.calls (tried settings port count).value :=
    Dialogue.yields_run _ _
  obtain ⟨sameTries, sameTried, left, rest, otherRest⟩ :=
    Served.unique tries (Dialogue.yields_run _ other) served alsoServed
  have sameHandshake : handshakeAfter settings other count = handshakeAfter settings port count :=
    congrArg Prod.snd sameTried
  have runs : Dialogue.Yields (run (handshakeAfter settings port count))
      (completion settings port count).transcript.calls (completion settings port count).value :=
    Dialogue.yields_run _ _
  have otherRuns : Dialogue.Yields (run (handshakeAfter settings other count))
      (completion settings other count).transcript.calls
      (completion settings other count).value :=
    Dialogue.yields_run _ _
  rw [sameHandshake] at otherRuns
  rw [← List.append_nil (completion settings port count).transcript.calls] at rest
  rw [← List.append_nil (completion settings other count).transcript.calls] at otherRest
  obtain ⟨sameRuns, sameReport, -⟩ := Served.unique runs otherRuns rest otherRest
  exact ⟨⟨sameTried, sameTries⟩, sameReport, sameRuns⟩

end Ports

/-- A stub whose replies come in time, in chunks of any sizes and with any reads disturbed, leads a
handshake to the same result of every step and to the same report as a script with these replies,
and it receives just what is written in the run on that script. -/
theorem handshake_independent_of_chunks (settings : Settings)
    (timed : settings.line.readTimeout ≠ 0) (limited : settings.line.maxResponse ≠ 0)
    {terminal : Terminal} {replies : List Bytes}
    (ready : terminal.Ready settings.line .vacant replies) (count : Nat) :
    let script : Script := { replies }
    (tried settings terminal count).value = (tried settings script count).value ∧
      (completion settings terminal count).value = (completion settings script count).value ∧
      (completion settings terminal count).port.wire = terminal.wire ++
        ((tried settings script count).transcript.writes ++
          (completion settings script count).transcript.writes).flatten := by
  intro script
  have answered := answered_wholeHistory settings terminal count
  have converses := (reaches_completion settings terminal count).converses
  have served : Served replies (wholeHistory settings terminal count) :=
    ready.served timed limited converses answered
  have rehearsed : Served replies (wholeHistory settings script count) :=
    @Script.served_of_answered script _ (answered_wholeHistory settings script count)
  obtain ⟨⟨sameTried, sameTries⟩, sameReport, sameRuns⟩ := agree_of_served rehearsed served
  refine ⟨sameTried, sameReport, ?_⟩
  calc (completion settings terminal count).port.wire
      = terminal.wire ++
          ((wholeHistory settings terminal count).filterMap Exchange.written?).flatten := by
        rw [← portAfter_wholeHistory, Terminal.wire_portAfter answered]
    _ = terminal.wire ++
          ((wholeHistory settings script count).filterMap Exchange.written?).flatten := by
        rw [wholeHistory, wholeHistory, sameTries, sameRuns]
    _ = _ := by
        rw [wholeHistory, List.filterMap_append, ← Transcript.writes_eq, ← Transcript.writes_eq]

/-- A stub that is silent but for its answers to the two queries, which come in pieces on a slow
clock and with disturbed reads before them. -/
theorem handshake_independent_of_chunks_slow :
    let settings : Settings := { line := { maxResponse := 8 } }
    let answer := Bytes.ascii "$T0" ++ Bytes.ascii "5#b9+"
    let again : Arrival := .failure .interrupted "again"
    let pieces : List Arrival :=
      [again, .data (Bytes.ascii "$T0") 90, again, .data (Bytes.ascii "5#b9+") 70]
    let terminal : Terminal :=
      { refusal := fun _ => none
        replies := [[again], pieces, [], pieces]
        line := { clock := { lapses := [300, 1, 2, 300, 10, 20, 5] } } }
    let script : Script := { replies := [[], answer, [], answer] }
    (tried settings terminal 2).value = (tried settings script 2).value ∧
      (completion settings terminal 2).value = (completion settings script 2).value ∧
      (completion settings terminal 2).value.1.map Report.outcome = .ok .confirmed ∧
      (completion settings terminal 2).port.wire = Bytes.ascii "$#00+$qSupported#37+" ++
        Session.packet (.setDivider 0x20215068 33) ++ Bytes.ascii "+$qSupported#37+" := by
  intro settings answer again pieces terminal script
  have chunked : Chunked answer pieces :=
    .disturbed _ (.chunk (by decide) 90 (.disturbed _ (.last (by decide) 70)))
  have promised : Promised 8 200 [300, 1, 2, 300, 10, 20, 5] [[], answer, [], answer]
      [[again], pieces, [], pieces] := by
    apply Promised.silence (by decide) (by decide)
    apply Promised.reply (by decide) chunked (by decide)
    apply Promised.silence (by decide) (by decide)
    exact Promised.reply (by decide) chunked (by decide) (.none _)
  have ready : terminal.Ready settings.line .vacant [[], answer, [], answer] :=
    ⟨rfl, rfl, fun absent => absurd rfl absent, rfl, promised⟩
  obtain ⟨sameSteps, sameReport, wire⟩ :=
    handshake_independent_of_chunks settings (by decide) (by decide) ready 2
  refine ⟨sameSteps, sameReport, ?_, ?_⟩
  · rw [sameReport]
    decide +kernel
  · rw [wire]
    decide +kernel

end Handshake

end BaudSwitch
