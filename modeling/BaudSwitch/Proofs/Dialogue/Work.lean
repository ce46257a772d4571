import BaudSwitch.Proofs.Dialogue.Course

/-!
# Work that may fail

Work is a dialogue that keeps a state and may end in a failure; the state survives the failure.
A course of one piece of work after another either fails in the first, or goes through both.
-/

namespace BaudSwitch

/-- A dialogue that keeps a state and may end in a failure. -/
abbrev Work (Failure State Value : Type) := ExceptT Failure (StateT State Dialogue) Value

namespace Work

variable {Failure State First Second Value : Type}

/-- The work, begun in one state, can make these exchanges and end with this result in
another. -/
def Performs (work : Work Failure State Value) (before : State) (exchanges : List Exchange)
    (result : Except Failure Value) (after : State) : Prop :=
  Dialogue.Yields (work before) exchanges (result, after)

/-- The second piece of work begins only where the first one did not fail. -/
theorem bind_apply (first : Work Failure State First) (andThen : First → Work Failure State Second)
    (before : State) :
    (first >>= andThen) before =
      (first before).bind fun
        | (.ok value, middle) => andThen value middle
        | (.error cause, middle) => .done (.error cause, middle) := by
  change Dialogue.bind _ _ = _
  congr 1
  funext ended
  rcases ended with ⟨_ | _, _⟩ <;> rfl

variable {before after : State} {exchanges : List Exchange}

@[simp]
theorem performs_pure_iff {value : Value} {result : Except Failure Value} :
    Performs (pure value) before exchanges result after ↔
      exchanges = [] ∧ result = .ok value ∧ after = before := by
  change Dialogue.Yields (.done (Except.ok value, before)) _ _ ↔ _
  simp

@[simp]
theorem performs_get_iff {result : Except Failure State} :
    Performs get before exchanges result after ↔
      exchanges = [] ∧ result = .ok before ∧ after = before := by
  change Dialogue.Yields (.done (Except.ok before, before)) _ _ ↔ _
  simp

@[simp]
theorem performs_modify_iff {change : State → State} {result : Except Failure Unit} :
    Performs (modify change) before exchanges result after ↔
      exchanges = [] ∧ result = .ok () ∧ after = change before := by
  change Dialogue.Yields (.done (Except.ok (), _)) _ _ ↔ _
  simp

theorem performs_bind_iff {first : Work Failure State First}
    {andThen : First → Work Failure State Second} {result : Except Failure Second} :
    Performs (first >>= andThen) before exchanges result after ↔
      (∃ cause, result = .error cause ∧
        Performs first before exchanges (.error cause) after) ∨
      ∃ value middle earlier later, exchanges = earlier ++ later ∧
        Performs first before earlier (.ok value) middle ∧
        Performs (andThen value) middle later result after := by
  rw [Performs, bind_apply, Dialogue.yields_bind_iff]
  constructor
  · rintro ⟨⟨_ | _, middle⟩, earlier, later, rfl, begun, onward⟩
    · obtain ⟨rfl, ended⟩ := Dialogue.yields_done_iff.mp onward
      cases ended
      rw [List.append_nil]
      exact .inl ⟨_, rfl, begun⟩
    · exact .inr ⟨_, middle, earlier, later, rfl, begun, onward⟩
  · rintro (⟨cause, rfl, begun⟩ | ⟨value, middle, earlier, later, rfl, begun, onward⟩)
    · exact ⟨_, exchanges, [], (List.append_nil _).symm, begun, .done _⟩
    · exact ⟨_, earlier, later, rfl, begun, onward⟩

/-- Work that makes no call and cannot fail leaves everything to what follows it. -/
theorem performs_bind_of_certain {first : Work Failure State First} {value : First}
    {middle : State} {andThen : First → Work Failure State Second} {result : Except Failure Second}
    (certain : ∀ exchanges result after, Performs first before exchanges result after ↔
      exchanges = [] ∧ result = .ok value ∧ after = middle) :
    Performs (first >>= andThen) before exchanges result after ↔
      Performs (andThen value) middle exchanges result after := by
  simp only [performs_bind_iff, certain]
  constructor
  · rintro (⟨_, _, _, contradictory, _⟩ | ⟨_, _, _, _, rfl, ⟨rfl, same, rfl⟩, onward⟩)
    · cases contradictory
    · cases same
      exact onward
  · intro onward
    exact .inr ⟨value, middle, [], exchanges, rfl, ⟨rfl, rfl, rfl⟩, onward⟩

@[simp]
theorem performs_pure_bind_iff {value : First} {andThen : First → Work Failure State Second}
    {result : Except Failure Second} :
    Performs (pure value >>= andThen) before exchanges result after ↔
      Performs (andThen value) before exchanges result after :=
  performs_bind_of_certain fun _ _ _ => performs_pure_iff

@[simp]
theorem performs_get_bind_iff {andThen : State → Work Failure State Second}
    {result : Except Failure Second} :
    Performs (get >>= andThen) before exchanges result after ↔
      Performs (andThen before) before exchanges result after :=
  performs_bind_of_certain fun _ _ _ => performs_get_iff

@[simp]
theorem performs_modify_bind_iff {change : State → State}
    {andThen : Unit → Work Failure State Second} {result : Except Failure Second} :
    Performs (modify change >>= andThen) before exchanges result after ↔
      Performs (andThen ()) (change before) exchanges result after :=
  performs_bind_of_certain fun _ _ _ => performs_modify_iff

@[simp]
theorem performs_throw_bind_iff {cause : Failure} {andThen : First → Work Failure State Second}
    {result : Except Failure Second} :
    Performs (throw cause >>= andThen) before exchanges result after ↔
      exchanges = [] ∧ result = .error cause ∧ after = before := by
  change Dialogue.Yields (.done (Except.error cause, before)) _ _ ↔ _
  simp

end Work

end BaudSwitch
