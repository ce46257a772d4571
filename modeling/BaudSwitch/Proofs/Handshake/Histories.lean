import BaudSwitch.Proofs.Handshake.Moves

/-!
# Histories of a handshake

A history is what happened to a new handshake over any number of steps, failed ones tried again
included.  A run is the part of a history that stops at the first failure or at the end; the five
steps it is given are always enough to get there.
-/

namespace BaudSwitch

/-- How many steps it takes at most to be told the outcome. -/
def Stage.remaining : Stage → Nat
  | .openOld => 5
  | .probe => 4
  | .querySupportedOld => 3
  | .reopen => 2
  | .querySupportedNew | .done _ => 1

theorem Stage.remaining_le_five (stage : Stage) : stage.remaining ≤ 5 := by
  cases stage <;> simp [remaining]

namespace Handshake

open Work

/-- Try the current stage so many times, whatever comes of it. -/
def attempts : Nat → Handshake → Dialogue (List (Except HandshakeError Stage) × Handshake)
  | 0, handshake => return ([], handshake)
  | more + 1, handshake => do
      let (result, middle) ← step handshake
      let (results, last) ← attempts more middle
      return (result :: results, last)

theorem attempts_step (more : Nat) (handshake : Handshake) :
    attempts (more + 1) handshake = (step handshake).bind fun ended =>
      (attempts more ended.2).bind fun tried => .done (ended.1 :: tried.1, tried.2) := rfl

/-- These exchanges, made step by step on a new handshake, left it like this. -/
inductive Reaches (settings : Settings) : List Exchange → Handshake → Prop where
  | new : Reaches settings [] { settings }
  | moved {history handshake more result after} (reached : Reaches settings history handshake)
      (move : handshake.Moves more result after) : Reaches settings (history ++ more) after

/-- Courses of a run: steps until one fails or tells the outcome. -/
inductive Runs : Handshake → List Exchange → Except HandshakeError Report → Handshake → Prop where
  | failed {handshake exchanges cause after}
      (move : handshake.Moves exchanges (.error cause) after) :
      Runs handshake exchanges (.error cause) after
  | finished {handshake exchanges outcome after}
      (move : handshake.Moves exchanges (.ok (.done outcome)) after) :
      Runs handshake exchanges (.ok after.report) after
  | onward {handshake earlier later next middle result after}
      (move : handshake.Moves earlier (.ok next) middle)
      (unfinished : ∀ outcome, next ≠ .done outcome) (rest : Runs middle later result after) :
      Runs handshake (earlier ++ later) result after

/-- How a run goes on after the work of a stage. -/
def Continues (later : List Exchange) (result : Except HandshakeError Report)
    (after : Handshake) : Except HandshakeError Stage → Handshake → Prop
  | .error cause, middle => later = [] ∧ result = .error cause ∧ after = middle
  | .ok (.done outcome), middle =>
      later = [] ∧ result = .ok after.report ∧ after = middle.reached (.done outcome)
  | .ok next, middle => Runs (middle.reached next) later result after

variable {settings : Settings} {handshake after : Handshake} {exchanges history : List Exchange}

theorem Runs.pursues {result : Except HandshakeError Report}
    (course : Runs handshake exchanges result after) :
    ∃ earlier later moved middle, exchanges = earlier ++ later ∧
      handshake.Pursues handshake.stage earlier moved middle ∧
      Continues later result after moved middle := by
  cases course with
  | failed move =>
      cases move with
      | failed course => exact ⟨_, [], _, _, (List.append_nil _).symm, course, rfl, rfl, rfl⟩
  | finished move =>
      cases move with
      | advanced course => exact ⟨_, [], _, _, (List.append_nil _).symm, course, rfl, rfl, rfl⟩
  | @onward _ _ _ next _ _ _ move unfinished rest =>
      cases move with
      | advanced course =>
          refine ⟨_, _, _, _, rfl, course, ?_⟩
          cases next with
          | done outcome => exact absurd rfl (unfinished outcome)
          | _ => exact rest

theorem Reaches.attempts {count : Nat} {results : List (Except HandshakeError Stage)}
    (reached : Reaches settings history handshake)
    (course : (attempts count handshake).Yields exchanges (results, after)) :
    Reaches settings (history ++ exchanges) after := by
  induction count generalizing handshake history exchanges results with
  | zero =>
      obtain ⟨rfl, ended⟩ := Dialogue.yields_done_iff.mp course
      cases ended
      rw [List.append_nil]
      exact reached
  | succ count inductionHypothesis =>
      obtain ⟨⟨result, middle⟩, earlier, _, rfl, stepping, more⟩ :=
        Dialogue.yields_bind_iff.mp course
      obtain ⟨⟨others, last⟩, later, _, rfl, trying, ending⟩ := Dialogue.yields_bind_iff.mp more
      obtain ⟨rfl, ended⟩ := Dialogue.yields_done_iff.mp ending
      cases ended
      rw [List.append_nil, ← List.append_assoc]
      exact inductionHypothesis (reached.moved (moves_of_performs stepping)) trying

theorem Reaches.runs {result : Except HandshakeError Report}
    (reached : Reaches settings history handshake)
    (course : Runs handshake exchanges result after) :
    Reaches settings (history ++ exchanges) after := by
  induction course generalizing history with
  | failed move => exact reached.moved move
  | finished move => exact reached.moved move
  | onward move unfinished rest inductionHypothesis =>
      rw [← List.append_assoc]
      exact inductionHypothesis (reached.moved move)

/-- No stage is left while its work goes on. -/
theorem Pursues.stage {stage : Stage} {result : Except HandshakeError Stage}
    (course : handshake.Pursues stage exchanges result after) :
    after.stage = handshake.stage := by
  cases stage with
  | reopen =>
      cases course with
      | unclosed closing => cases closing; rfl
      | closed closing opening => cases closing <;> cases opening <;> rfl
  | done outcome => rw [course.2.2]
  | _ => cases course <;> rfl

/-- A step that succeeds leads to the stage it names, which is the next one in order. -/
theorem Moves.advances {next : Stage} (move : handshake.Moves exchanges (.ok next) after) :
    after.stage = next ∧
      ((∃ outcome, next = .done outcome) ∨ next.remaining + 1 = handshake.stage.remaining) := by
  cases move with
  | advanced course =>
      refine ⟨rfl, ?_⟩
      cases stage : handshake.stage <;> rw [stage] at course
      case done outcome => exact .inl ⟨outcome, Except.ok.inj course.2.1⟩
      case reopen =>
        cases course with
        | closed closing opening => cases opening; exact .inr rfl
      all_goals cases course <;> first | exact .inr rfl | exact .inl ⟨_, rfl⟩

/-- Only refused openings leave a handshake at its first stage. -/
theorem Moves.refused {result : Except HandshakeError Stage}
    (move : handshake.Moves exchanges result after) (stage : after.stage = .openOld) :
    handshake.stage = .openOld ∧ after = handshake ∧ ∃ cause, exchanges =
      [(handshake.opening handshake.settings.line.initialBaud, .error cause)] := by
  cases move with
  | failed course =>
      have before : handshake.stage = .openOld := course.stage.symm.trans stage
      rw [before] at course
      cases course with
      | refused cause => exact ⟨before, rfl, cause, rfl⟩
  | advanced course =>
      rcases (Moves.advanced course).advances with ⟨same, ⟨outcome, rfl⟩ | closer⟩
      · cases same.symm.trans stage
      · rw [← same, stage] at closer
        cases before : handshake.stage <;> simp [before, Stage.remaining] at closer

/-- Five steps bring every handshake to a failure or to its end. -/
theorem runs_of_performs_steps {count : Nat} {result : Except HandshakeError Unit}
    (enough : handshake.stage.remaining ≤ count)
    (course : Performs (steps count) handshake exchanges result after) :
    Runs handshake exchanges (result.map fun _ => after.report) after := by
  induction count generalizing handshake exchanges with
  | zero => cases stage : handshake.stage <;> simp [stage, Stage.remaining] at enough
  | succ count inductionHypothesis =>
      rcases performs_bind_iff.mp course with
        ⟨cause, rfl, failing⟩ | ⟨next, middle, earlier, later, rfl, stepping, rest⟩
      · exact .failed (moves_of_performs failing)
      · have move := moves_of_performs stepping
        by_cases finished : ∃ outcome, next = .done outcome
        · obtain ⟨outcome, rfl⟩ := finished
          obtain ⟨rfl, rfl, rfl⟩ := performs_pure_iff.mp rest
          rw [List.append_nil]
          exact .finished move
        · -- A step that does not finish brings the end nearer by one, so the count suffices.
          have unfinished : ∀ outcome, next ≠ .done outcome :=
            fun outcome equal => finished ⟨outcome, equal⟩
          obtain ⟨same, closer⟩ := move.advances
          have enoughLeft : middle.stage.remaining ≤ count := by
            rw [same]
            have := closer.resolve_left finished
            omega
          refine .onward move unfinished (inductionHypothesis enoughLeft ?_)
          cases next with
          | done outcome => exact absurd rfl (unfinished outcome)
          | _ => exact rest

theorem runs_of_performs {result : Except HandshakeError Report}
    (course : Performs run handshake exchanges result after) :
    Runs handshake exchanges result after := by
  have enough : handshake.stage.remaining ≤ 5 := handshake.stage.remaining_le_five
  rcases performs_bind_iff.mp course with
    ⟨cause, rfl, failing⟩ | ⟨_, last, earlier, _, rfl, finishing, reporting⟩
  · exact runs_of_performs_steps enough failing
  · rw [performs_get_bind_iff] at reporting
    obtain ⟨rfl, rfl, rfl⟩ := performs_pure_iff.mp reporting
    rw [List.append_nil]
    exact runs_of_performs_steps enough finishing

theorem runs_run {Port : Type} [Answering Port] (handshake : Handshake) (port : Port) :
    let ended := Dialogue.run (run handshake) port
    Runs handshake ended.transcript.calls ended.value.1 ended.value.2 :=
  runs_of_performs (Dialogue.yields_run (run handshake) port)

theorem reaches_attempts {Port : Type} [Answering Port] (settings : Settings) (count : Nat)
    (port : Port) :
    let ended := Dialogue.run (Handshake.attempts count { settings }) port
    Reaches settings ended.transcript.calls ended.value.2 :=
  Reaches.new.attempts (Dialogue.yields_run (Handshake.attempts count { settings }) port)

end Handshake

end BaudSwitch
