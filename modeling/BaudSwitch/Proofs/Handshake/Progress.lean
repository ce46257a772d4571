import BaudSwitch.Proofs.Handshake.Ownership

/-!
# The order of the stages

A step that succeeds leads to the stage that comes next, one that fails leaves the handshake at its
stage and with what it has noted, and at the end nothing changes any more.  So the stages passed
over any number of steps are the first few of a fixed order, and a run is nothing but the next few
steps, five at most, up to the first that fails or tells the outcome.
-/

namespace BaudSwitch

namespace Stage

/-- The second stage is the one that comes right behind the first. -/
inductive Precedes : Stage → Stage → Prop where
  | opened : Precedes .openOld .probe
  | probed : Precedes .probe .querySupportedOld
  | queried : Precedes .querySupportedOld .reopen
  | reopened : Precedes .reopen .querySupportedNew
  | ended (outcome : Outcome) : Precedes .querySupportedNew (.done outcome)

/-- The stages on the way to the end, as they are reached. -/
def inOrder : List Stage :=
  [.probe, .querySupportedOld, .reopen, .querySupportedNew]

/-- The stages that were reached by the time a handshake is at this one. The end may have been
reached again so many times. -/
def trail (again : Nat) : Stage → List Stage
  | .openOld => []
  | .probe => [.probe]
  | .querySupportedOld => [.probe, .querySupportedOld]
  | .reopen => [.probe, .querySupportedOld, .reopen]
  | .querySupportedNew => inOrder
  | .done outcome => inOrder ++ List.replicate (again + 1) (.done outcome)

theorem Precedes.trail_eq {stage next : Stage} (precedes : stage.Precedes next) (again : Nat) :
    next.trail 0 = stage.trail again ++ [next] := by
  cases precedes <;> rfl

theorem trail_done_succ (again : Nat) (outcome : Outcome) :
    (done outcome).trail (again + 1) = (done outcome).trail again ++ [.done outcome] := by
  rw [trail, trail, List.append_assoc, ← List.replicate_succ']

/-- However far a handshake has come, the stages it has reached begin the fixed order. -/
theorem trail_begins (again : Nat) (stage : Stage) :
    ∃ outcome repeats, stage.trail again <+: inOrder ++ List.replicate repeats (.done outcome) := by
  cases stage with
  | done outcome => exact ⟨outcome, again + 1, List.prefix_rfl⟩
  | _ => exact ⟨.noResponse, 0, _, rfl⟩

theorem remaining_pos (stage : Stage) : 0 < stage.remaining := by
  cases stage <;> simp [remaining]

end Stage

namespace Handshake

open Work

/-! ## One step -/

section Steps

variable {handshake after : Handshake} {exchanges : List Exchange}

/-- The work of a stage ends with the stage behind it; at the end there is none. -/
theorem Pursues.precedes {stage next : Stage}
    (course : handshake.Pursues stage exchanges (.ok next) after) :
    stage.Precedes next ∨ ∃ outcome, stage = .done outcome ∧ next = .done outcome := by
  cases stage with
  | openOld =>
      cases course
      exact .inl .opened
  | probe =>
      cases course
      exact .inl .probed
  | querySupportedOld => cases course <;> exact .inl .queried
  | reopen =>
      cases course with
      | closed closing opening =>
          cases opening
          exact .inl .reopened
  | querySupportedNew => cases course <;> exact .inl (.ended _)
  | done outcome => exact .inr ⟨outcome, rfl, Except.ok.inj course.2.1⟩

theorem Moves.precedes {next : Stage} (move : handshake.Moves exchanges (.ok next) after) :
    after.stage = next ∧ (handshake.stage.Precedes next ∨
      ∃ outcome, handshake.stage = .done outcome ∧ next = .done outcome) := by
  cases move with
  | advanced course => exact ⟨rfl, course.precedes⟩

theorem Pursues.divider_of_error {stage : Stage} {cause : HandshakeError}
    (course : handshake.Pursues stage exchanges (.error cause) after) :
    after.divider = handshake.divider ∧ after.speedChangeSent = handshake.speedChangeSent := by
  cases stage with
  | reopen =>
      cases course with
      | unclosed closing => cases closing; exact ⟨rfl, rfl⟩
      | closed closing opening => cases opening; cases closing <;> exact ⟨rfl, rfl⟩
  | done outcome => cases course.2.1
  | _ => cases course <;> exact ⟨rfl, rfl⟩

/-- A step that fails leaves the stage as it was, and what was noted of the speed change. -/
theorem Moves.unchanged_of_error {cause : HandshakeError}
    (move : handshake.Moves exchanges (.error cause) after) :
    after.stage = handshake.stage ∧ after.divider = handshake.divider ∧
      after.speedChangeSent = handshake.speedChangeSent := by
  cases move with
  | failed course => exact ⟨course.stage, course.divider_of_error⟩

/-- At the end a step does nothing, and tells the outcome again. -/
theorem Moves.of_done {result : Except HandshakeError Stage} {outcome : Outcome}
    (ended : handshake.stage = .done outcome) (move : handshake.Moves exchanges result after) :
    exchanges = [] ∧ result = .ok (.done outcome) ∧ after = handshake := by
  cases move with
  | failed course =>
      rw [ended] at course
      cases course.2.1
  | advanced course =>
      rw [ended] at course
      obtain ⟨rfl, same, rfl⟩ := course
      cases same
      refine ⟨rfl, rfl, ?_⟩
      rw [reached, ← ended]

end Steps

/-! ## Any number of steps -/

/-- The stages that steps returned, those of the failed ones left out. -/
def passed (results : List (Except HandshakeError Stage)) : List Stage :=
  results.filterMap Except.toOption

section Histories

variable {Port : Type} [Answering Port] (settings : Settings) (port : Port)

theorem results_succ (count : Nat) :
    (tried settings port (count + 1)).value.1 =
      (tried settings port count).value.1 ++ [(nextStep settings port count).value.1] := by
  simp only [nextStep, handshakeAfter, tried, attempts_succ, Dialogue.run_bind]
  simp [Dialogue.run]

/-- The stage of a handshake tells which stages it has passed. -/
theorem passed_tried (count : Nat) :
    ∃ again, passed (tried settings port count).value.1 =
      (handshakeAfter settings port count).stage.trail again := by
  induction count with
  | zero => exact ⟨0, rfl⟩
  | succ count inductionHypothesis =>
      obtain ⟨again, same⟩ := inductionHypothesis
      have move := moves_nextStep settings port count
      rw [passed, results_succ, List.filterMap_append, ← passed, same]
      cases returned : (nextStep settings port count).value.1 with
      | error cause =>
          rw [returned] at move
          refine ⟨again, ?_⟩
          rw [move.unchanged_of_error.1]
          exact List.append_nil _
      | ok next =>
          rw [returned] at move
          obtain ⟨reached, precedes | ⟨outcome, ended, rfl⟩⟩ := move.precedes
          · exact ⟨0, by rw [reached, precedes.trail_eq again]; rfl⟩
          · exact ⟨again + 1, by rw [reached, ended, Stage.trail_done_succ]; rfl⟩

end Histories

/-! ## A run, step by step -/

/-- A run goes no further than this result of a step. -/
def Conclusive : Except HandshakeError Stage → Prop
  | .error _ | .ok (.done _) => True
  | _ => False

section Runs

variable {Port : Type} [Answering Port] (handshake : Handshake) (port : Port)

/-- Behind a step that a run does not end with, one stage less is left. -/
theorem remaining_of_inconclusive
    (inconclusive : ¬ Conclusive (Dialogue.run (step handshake) port).value.1) :
    (Dialogue.run (step handshake) port).value.2.stage.remaining + 1 =
      handshake.stage.remaining := by
  have move : handshake.Moves _ (Dialogue.run (step handshake) port).value.1
      (Dialogue.run (step handshake) port).value.2 :=
    moves_of_performs (Dialogue.yields_run (step handshake) port)
  generalize Dialogue.run (step handshake) port = first at inconclusive move ⊢
  obtain ⟨⟨cause | next, middle⟩, left, transcript⟩ := first
  · exact absurd trivial inconclusive
  · obtain ⟨reached, ⟨outcome, rfl⟩ | closer⟩ := move.advances
    · exact absurd trivial inconclusive
    · rw [reached]
      exact closer

theorem run_attempts_succ (count : Nat) :
    Dialogue.run (attempts (count + 1) handshake) port =
      let first := Dialogue.run (step handshake) port
      let rest := Dialogue.run (attempts count first.value.2) first.port
      ⟨(first.value.1 :: rest.value.1, rest.value.2), rest.port,
        first.transcript ++ rest.transcript⟩ := by
  simp only [attempts_step, Dialogue.run_bind]
  simp [Dialogue.run]

theorem run_steps_of_conclusive (limit : Nat)
    (conclusive : Conclusive (Dialogue.run (step handshake) port).value.1) :
    Dialogue.run (steps (limit + 1) handshake) port =
      let first := Dialogue.run (step handshake) port
      ⟨(first.value.1.map fun _ => (), first.value.2), first.port, first.transcript⟩ := by
  rw [steps, bind_apply, Dialogue.run_bind]
  generalize Dialogue.run (step handshake) port = first at conclusive ⊢
  obtain ⟨⟨cause | next, middle⟩, left, transcript⟩ := first
  · exact congrArg _ (List.append_nil transcript)
  · cases next with
    | done outcome => exact congrArg _ (List.append_nil transcript)
    | _ => cases conclusive

theorem run_steps_of_inconclusive (limit : Nat)
    (inconclusive : ¬ Conclusive (Dialogue.run (step handshake) port).value.1) :
    Dialogue.run (steps (limit + 1) handshake) port =
      let first := Dialogue.run (step handshake) port
      let rest := Dialogue.run (steps limit first.value.2) first.port
      ⟨rest.value, rest.port, first.transcript ++ rest.transcript⟩ := by
  rw [steps, bind_apply, Dialogue.run_bind]
  generalize Dialogue.run (step handshake) port = first at inconclusive ⊢
  obtain ⟨⟨cause | next, middle⟩, left, transcript⟩ := first
  · exact absurd trivial inconclusive
  · cases next with
    | done outcome => exact absurd trivial inconclusive
    | _ => rfl

/-- With enough steps allowed, no more of them are made than the stages left ask for, and the last
of them is the first that fails or tells the outcome. -/
theorem steps_of_attempts {limit : Nat} (enough : handshake.stage.remaining ≤ limit) :
    ∃ earlier last, earlier.length < handshake.stage.remaining ∧
      (∀ result ∈ earlier, ¬ Conclusive result) ∧ Conclusive last ∧
      let tries := Dialogue.run (attempts (earlier.length + 1) handshake) port
      tries.value.1 = earlier ++ [last] ∧
        Dialogue.run (steps limit handshake) port =
          ⟨(last.map fun _ => (), tries.value.2), tries.port, tries.transcript⟩ := by
  induction limit generalizing handshake port with
  | zero => cases stage : handshake.stage <;> simp [stage, Stage.remaining] at enough
  | succ limit inductionHypothesis =>
      by_cases conclusive : Conclusive (Dialogue.run (step handshake) port).value.1
      · refine ⟨[], _, handshake.stage.remaining_pos, by simp, conclusive, ?_⟩
        rw [run_attempts_succ, run_steps_of_conclusive handshake port limit conclusive]
        exact ⟨rfl, congrArg _ (List.append_nil _).symm⟩
      · -- A step that is not the last brings the end nearer by one.
        have closer := remaining_of_inconclusive handshake port conclusive
        have enoughLeft :
            (Dialogue.run (step handshake) port).value.2.stage.remaining ≤ limit := by omega
        obtain ⟨earlier, last, fewer, going, ended, tries, rest⟩ :=
          inductionHypothesis _ (Dialogue.run (step handshake) port).port enoughLeft
        refine ⟨(Dialogue.run (step handshake) port).value.1 :: earlier, last, ?_, ?_, ended, ?_⟩
        · rw [List.length_cons]
          omega
        · exact List.forall_mem_cons.mpr ⟨conclusive, going⟩
        · rw [List.length_cons, run_attempts_succ,
            run_steps_of_inconclusive handshake port limit conclusive]
          refine ⟨congrArg _ tries, ?_⟩
          dsimp only
          rw [rest]

theorem run_of_steps :
    Dialogue.run (run handshake) port =
      let ended := Dialogue.run (steps 5 handshake) port
      ⟨(ended.value.1.map fun _ => ended.value.2.report, ended.value.2), ended.port,
        ended.transcript⟩ := by
  rw [run, bind_apply, Dialogue.run_bind]
  generalize Dialogue.run (steps 5 handshake) port = ended
  obtain ⟨⟨cause | _, last⟩, left, transcript⟩ := ended <;>
    exact congrArg _ (List.append_nil transcript)

end Runs

/-- A step leads to the next stage or, where it fails, leaves what there was; at the end it tells
the outcome without a call.  So the stages that steps return, failed ones tried again among them,
begin a fixed list, and a run makes the next few steps up to the first conclusive one. -/
theorem stages_in_fixed_order {Port : Type} [Answering Port] :
    (∀ (handshake : Handshake) (port : Port),
      let ended := Dialogue.run (step handshake) port
      (∀ next, ended.value.1 = .ok next → (∀ outcome, handshake.stage ≠ .done outcome) →
        handshake.stage.Precedes next ∧ ended.value.2.stage = next) ∧
      (∀ cause, ended.value.1 = .error cause →
        ended.value.2.stage = handshake.stage ∧ ended.value.2.divider = handshake.divider ∧
          ended.value.2.speedChangeSent = handshake.speedChangeSent) ∧
      ∀ outcome, handshake.stage = .done outcome →
        ended.value = (.ok (.done outcome), handshake) ∧ ended.transcript.calls = []) ∧
    (∀ (settings : Settings) (port : Port) (count : Nat), ∃ outcome repeats,
      passed (tried settings port count).value.1 <+:
        Stage.inOrder ++ List.replicate repeats (.done outcome)) ∧
    ∀ (handshake : Handshake) (port : Port), ∃ earlier last, earlier.length < 5 ∧
      (∀ result ∈ earlier, ¬ Conclusive result) ∧ Conclusive last ∧
      let tries := Dialogue.run (attempts (earlier.length + 1) handshake) port
      tries.value.1 = earlier ++ [last] ∧
        Dialogue.run (run handshake) port =
          ⟨(last.map fun _ => tries.value.2.report, tries.value.2), tries.port,
            tries.transcript⟩ := by
  refine ⟨?_, ?_, ?_⟩
  · intro handshake port ended
    have move : handshake.Moves ended.transcript.calls ended.value.1 ended.value.2 :=
      moves_of_performs (Dialogue.yields_run (step handshake) port)
    refine ⟨?_, ?_, ?_⟩
    · intro next succeeded unfinished
      rw [succeeded] at move
      obtain ⟨reached, precedes | ⟨outcome, finished, -⟩⟩ := move.precedes
      · exact ⟨precedes, reached⟩
      · exact absurd finished (unfinished outcome)
    · intro cause failed
      rw [failed] at move
      exact move.unchanged_of_error
    · intro outcome finished
      obtain ⟨silent, told, same⟩ := move.of_done finished
      exact ⟨Prod.ext told same, silent⟩
  · intro settings port count
    obtain ⟨again, same⟩ := passed_tried settings port count
    rw [same]
    exact Stage.trail_begins again _
  · intro handshake port
    obtain ⟨earlier, last, fewer, going, ended, tries, steps⟩ :=
      steps_of_attempts handshake port handshake.stage.remaining_le_five
    refine ⟨earlier, last, Nat.lt_of_lt_of_le fewer handshake.stage.remaining_le_five, going, ended,
      tries, ?_⟩
    rw [run_of_steps, steps]
    cases last <;> rfl

/-- The first opening and the acknowledgement of the probe are made to fail. The stages come in
their order all the same, with the end told twice. -/
theorem stages_in_fixed_order_retried :
    let settings : Settings := {}
    let script : Script :=
      { replies := [[], [], Bytes.ascii "$OK#9a"]
        fault := fun kind before =>
          if kind = .connect ∧ before = 0 ∨ kind = .write ∧ before = 1 then some (.io "unplugged")
          else none }
    let handshake := handshakeAfter settings script 7
    passed (tried settings script 8).value.1 =
        Stage.inOrder ++ List.replicate 2 (.done .noResponse) ∧
      (nextStep settings script 0).value.2.stage = .openOld ∧
      Stage.openOld.Precedes .probe ∧
      (nextStep settings script 7).value = (.ok (.done .noResponse), handshake) := by
  intro settings script handshake
  have refused : (nextStep settings script 0).value.1 =
      .error (.port (.cannotOpen "/dev/ttyUSB0" "unplugged")) := by decide +kernel
  have opening : (handshakeAfter settings script 1).stage = .openOld := by decide +kernel
  have opened : (nextStep settings script 1).value.1 = .ok .probe := by decide +kernel
  have finished : handshake.stage = .done .noResponse := by decide +kernel
  obtain ⟨stepwise, -, -⟩ := @stages_in_fixed_order Script _
  obtain ⟨-, unmoved, -⟩ := stepwise { settings } script
  obtain ⟨onward, -, -⟩ :=
    stepwise (handshakeAfter settings script 1) (tried settings script 1).port
  obtain ⟨-, -, atEnd⟩ := stepwise handshake (tried settings script 7).port
  have next := onward .probe opened (by simp [opening])
  rw [opening] at next
  exact ⟨by decide +kernel, (unmoved _ refused).1, next.1, (atEnd .noResponse finished).1⟩

end Handshake

end BaudSwitch
