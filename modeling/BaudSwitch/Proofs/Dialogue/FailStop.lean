import BaudSwitch.Proofs.Dialogue.Work

/-!
# Dialogues that stop at the first failure

A dialogue stops at failures when a call that fails is its last: it ends at once, with a value
that names the failure.  Work is put together from such dialogues without losing this, because
what would follow a failure is left out.
-/

namespace BaudSwitch

namespace Dialogue

variable {First Second Value : Type}

/-- After a call that fails nothing happens, and the value is one that the failure allows. -/
def StopsAtFailure (names : PortError → Value → Prop) : Dialogue Value → Prop
  | .done _ => True
  | .note _ next => next.StopsAtFailure names
  | .pause _ next => next.StopsAtFailure names
  | .call _ next =>
      (∀ cause, ∃ value, next (.error cause) = .done value ∧ names cause value) ∧
        ∀ bytes, (next (.ok bytes)).StopsAtFailure names

theorem StopsAtFailure.bind {dialogue : Dialogue First} {andThen : First → Dialogue Second}
    {names : PortError → First → Prop} {alsoNames : PortError → Second → Prop}
    (stops : dialogue.StopsAtFailure names)
    (passesOn : ∀ cause value, names cause value →
      ∃ result, andThen value = .done result ∧ alsoNames cause result)
    (onward : ∀ value, (andThen value).StopsAtFailure alsoNames) :
    (dialogue.bind andThen).StopsAtFailure alsoNames := by
  induction dialogue with
  | done value => exact onward value
  | note notice next inductionHypothesis => exact inductionHypothesis stops
  | pause milliseconds next inductionHypothesis => exact inductionHypothesis stops
  | call request next inductionHypothesis =>
      refine ⟨?_, fun bytes => inductionHypothesis _ (stops.2 bytes)⟩
      -- The first dialogue ended with the failure; what follows it must end there too.
      intro cause
      obtain ⟨value, ended, named⟩ := stops.1 cause
      change ∃ result, (next (.error cause)).bind andThen = _ ∧ _
      rw [ended]
      exact passesOn cause value named

end Dialogue

namespace Work

variable {Failure State First Second : Type} {wrap : PortError → Failure}

/-- The work ends at the first call that fails, and with the failure of that call. -/
def FailStop (wrap : PortError → Failure) (work : Work Failure State First) : Prop :=
  ∀ state, (work state).StopsAtFailure fun cause ended => ended.1 = .error (wrap cause)

theorem failStop_of_done {work : Work Failure State First}
    (done : ∀ state, ∃ ended, work state = .done ended) : FailStop wrap work := by
  intro state
  obtain ⟨ended, equal⟩ := done state
  rw [equal]
  trivial

theorem FailStop.bind {work : Work Failure State First}
    {andThen : First → Work Failure State Second}
    (first : FailStop wrap work) (second : ∀ value, FailStop wrap (andThen value)) :
    FailStop wrap (work >>= andThen) := by
  intro state
  rw [bind_apply]
  refine (first state).bind ?_ ?_
  · rintro cause ⟨result, middle⟩ named
    cases named
    exact ⟨_, rfl, rfl⟩
  · rintro ⟨_ | value, middle⟩
    · trivial
    · exact second value middle

theorem failStop_pure (value : First) :
    FailStop wrap (pure value : Work Failure State First) :=
  failStop_of_done fun _ => ⟨_, rfl⟩

theorem failStop_throw (cause : Failure) :
    FailStop wrap (throw cause : Work Failure State First) :=
  failStop_of_done fun _ => ⟨_, rfl⟩

theorem failStop_get : FailStop wrap (get : Work Failure State State) :=
  failStop_of_done fun _ => ⟨_, rfl⟩

theorem failStop_modify (change : State → State) :
    FailStop wrap (modify change : Work Failure State Unit) :=
  failStop_of_done fun _ => ⟨_, rfl⟩

end Work

end BaudSwitch
