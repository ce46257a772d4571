import BaudSwitch.Dialogue

/-!
# Courses of a dialogue

A course is one way a dialogue can go: the calls it makes, the answers it gets, and the value it
ends with.  Every run follows a course, whatever the port, so what holds of all courses holds of
all runs.  A course through two dialogues, one after the other, is a course through each.
-/

namespace BaudSwitch

/-- A call with its answer. -/
abbrev Exchange := Call × Answer

namespace Exchange

/-- The call, if it succeeded. -/
def succeeded? : Exchange → Option Call
  | (request, .ok _) => some request
  | _ => none

/-- The octets of a write that succeeded. -/
def written? : Exchange → Option Bytes
  | (.write bytes, .ok _) => some bytes
  | _ => none

/-- The window of a read that succeeded. -/
def taken? : Exchange → Option Bytes
  | (.read _, .ok raw) => some raw
  | _ => none

theorem written?_eq_some_iff {exchange : Exchange} {bytes : Bytes} :
    exchange.written? = some bytes ↔ ∃ echo, exchange = (.write bytes, .ok echo) := by
  rcases exchange with ⟨_ | _ | _ | _, _ | _⟩ <;> simp [written?]

theorem taken?_eq_some_iff {exchange : Exchange} {raw : Bytes} :
    exchange.taken? = some raw ↔ ∃ limit, exchange = (.read limit, .ok raw) := by
  rcases exchange with ⟨_ | _ | _ | _, _ | _⟩ <;> simp [taken?]

end Exchange

namespace Transcript

@[simp]
theorem calls_nil : calls [] = [] := rfl

@[simp]
theorem calls_noted (notice : Notice) (rest : Transcript) :
    calls (.noted notice :: rest) = calls rest := rfl

@[simp]
theorem calls_paused (milliseconds : UInt64) (rest : Transcript) :
    calls (.paused milliseconds :: rest) = calls rest := rfl

@[simp]
theorem calls_called (request : Call) (answer : Answer) (rest : Transcript) :
    calls (.called request answer :: rest) = (request, answer) :: calls rest := rfl

@[simp]
theorem calls_map_noted_append (notices : List Notice) (rest : Transcript) :
    calls (notices.map .noted ++ rest) = calls rest := by
  induction notices with
  | nil => rfl
  | cons notice notices inductionHypothesis => simpa using inductionHypothesis

@[simp]
theorem calls_append (first second : Transcript) :
    calls (first ++ second) = calls first ++ calls second :=
  List.filterMap_append

/-- The calls of a run, failed ones included, without their answers. -/
def requests (transcript : Transcript) : List Call :=
  transcript.calls.map Prod.fst

theorem events_eq (transcript : Transcript) :
    transcript.events = transcript.calls.filterMap Exchange.succeeded? := by
  rw [events, calls, List.filterMap_filterMap]
  congr 1
  funext entry
  rcases entry with _ | _ | ⟨request, _ | _⟩ <;> rfl

theorem writes_eq (transcript : Transcript) :
    transcript.writes = transcript.calls.filterMap Exchange.written? := by
  rw [writes, calls, List.filterMap_filterMap]
  congr 1
  funext entry
  rcases entry with _ | _ | ⟨_ | _ | _ | _, _ | _⟩ <;> rfl

end Transcript

namespace Dialogue

variable {First Second Third Value : Type}

theorem bind_done (dialogue : Dialogue Value) : dialogue.bind .done = dialogue := by
  induction dialogue <;> simp_all [bind]

theorem bind_assoc (dialogue : Dialogue First) (second : First → Dialogue Second)
    (third : Second → Dialogue Third) :
    (dialogue.bind second).bind third = dialogue.bind fun value => (second value).bind third := by
  induction dialogue <;> simp_all [bind]

instance : LawfulMonad Dialogue :=
  LawfulMonad.mk' Dialogue bind_done (fun _ _ => rfl) bind_assoc

/-- The dialogue can make these calls, get these answers, and end with this value. -/
inductive Yields : Dialogue Value → List Exchange → Value → Prop where
  | done (value : Value) : Yields (.done value) [] value
  | note {notice next exchanges value} :
      Yields next exchanges value → Yields (.note notice next) exchanges value
  | pause {milliseconds next exchanges value} :
      Yields next exchanges value → Yields (.pause milliseconds next) exchanges value
  | call {request next exchanges value} (answer : Answer) :
      Yields (next answer) exchanges value →
      Yields (.call request next) ((request, answer) :: exchanges) value

@[simp]
theorem yields_done_iff {value result : Value} {exchanges : List Exchange} :
    Yields (.done value) exchanges result ↔ exchanges = [] ∧ result = value := by
  constructor
  · intro course
    cases course
    exact ⟨rfl, rfl⟩
  · rintro ⟨rfl, rfl⟩
    exact .done _

@[simp]
theorem yields_note_iff {notice : Notice} {next : Dialogue Value} {exchanges : List Exchange}
    {value : Value} :
    Yields (.note notice next) exchanges value ↔ Yields next exchanges value := by
  constructor
  · intro course
    cases course with
    | note course => exact course
  · exact .note

@[simp]
theorem yields_pause_iff {milliseconds : UInt64} {next : Dialogue Value}
    {exchanges : List Exchange} {value : Value} :
    Yields (.pause milliseconds next) exchanges value ↔ Yields next exchanges value := by
  constructor
  · intro course
    cases course with
    | pause course => exact course
  · exact .pause

@[simp]
theorem yields_call_iff {request : Call} {next : Answer → Dialogue Value}
    {exchanges : List Exchange} {value : Value} :
    Yields (.call request next) exchanges value ↔
      ∃ answer rest, exchanges = (request, answer) :: rest ∧
        Yields (next answer) rest value := by
  constructor
  · intro course
    cases course with
    | call answer course => exact ⟨answer, _, rfl, course⟩
  · rintro ⟨answer, rest, rfl, course⟩
    exact .call answer course

/-- A course through two dialogues splits where the first one ends. -/
theorem yields_bind_iff {first : Dialogue First} {andThen : First → Dialogue Second}
    {exchanges : List Exchange} {value : Second} :
    Yields (first.bind andThen) exchanges value ↔
      ∃ middle earlier later, exchanges = earlier ++ later ∧
        Yields first earlier middle ∧ Yields (andThen middle) later value := by
  induction first generalizing exchanges with
  | done middle =>
      constructor
      · intro course
        exact ⟨middle, [], exchanges, rfl, .done middle, course⟩
      · rintro ⟨_, _, later, rfl, ended, course⟩
        obtain ⟨rfl, rfl⟩ := yields_done_iff.mp ended
        exact course
  | note notice next inductionHypothesis => simpa [bind] using inductionHypothesis
  | pause milliseconds next inductionHypothesis => simpa [bind] using inductionHypothesis
  | call request next inductionHypothesis =>
      simp only [bind, yields_call_iff, inductionHypothesis]
      constructor
      · rintro ⟨answer, _, rfl, middle, earlier, later, rfl, course, onward⟩
        exact ⟨middle, (request, answer) :: earlier, later, rfl,
          ⟨answer, earlier, rfl, course⟩, onward⟩
      · rintro ⟨middle, _, later, rfl, ⟨answer, earlier, rfl, course⟩, onward⟩
        exact ⟨answer, earlier ++ later, rfl, middle, earlier, later, rfl, course, onward⟩

section Run

variable {Port : Type} [Answering Port]

/-- The second dialogue finds the port as the first one left it. -/
theorem run_bind (dialogue : Dialogue First) (andThen : First → Dialogue Second) (port : Port) :
    (dialogue.bind andThen).run port =
      let first := dialogue.run port
      let second := (andThen first.value).run first.port
      ⟨second.value, second.port, first.transcript ++ second.transcript⟩ := by
  induction dialogue generalizing port with
  | done value => rfl
  | note notice next inductionHypothesis => simp [bind, run, inductionHypothesis]
  | pause milliseconds next inductionHypothesis => simp [bind, run, inductionHypothesis]
  | call request next inductionHypothesis => simp [bind, run, inductionHypothesis]

/-- Every run follows a course. -/
theorem yields_run (dialogue : Dialogue Value) (port : Port) :
    Yields dialogue (dialogue.run port).transcript.calls (dialogue.run port).value := by
  induction dialogue generalizing port with
  | done value => exact .done value
  | note notice next inductionHypothesis => exact .note (inductionHypothesis port)
  | pause milliseconds next inductionHypothesis => exact .pause (inductionHypothesis port)
  | call request next inductionHypothesis =>
      simp only [run, List.cons_append, Transcript.calls_called,
        Transcript.calls_map_noted_append]
      exact .call _ (inductionHypothesis _ _)

/-- The port gives just these answers when it is asked these calls in turn. -/
def Answered : Port → List Exchange → Prop
  | _, [] => True
  | port, (request, answer) :: rest =>
      answer = (Answering.respond port request).answer ∧
        Answered (Answering.respond port request).port rest

theorem answered_run (dialogue : Dialogue Value) (port : Port) :
    Answered port (dialogue.run port).transcript.calls := by
  induction dialogue generalizing port with
  | done value => trivial
  | note notice next inductionHypothesis => exact inductionHypothesis port
  | pause milliseconds next inductionHypothesis => exact inductionHypothesis port
  | call request next inductionHypothesis =>
      simp only [run, List.cons_append, Transcript.calls_called,
        Transcript.calls_map_noted_append]
      exact ⟨rfl, inductionHypothesis _ _⟩

/-- The port behind these calls. -/
def portAfter (port : Port) (exchanges : List Exchange) : Port :=
  exchanges.foldl (fun port exchange => (Answering.respond port exchange.1).port) port

theorem portAfter_run (dialogue : Dialogue Value) (port : Port) :
    portAfter port (dialogue.run port).transcript.calls = (dialogue.run port).port := by
  induction dialogue generalizing port with
  | done value => rfl
  | note notice next inductionHypothesis => exact inductionHypothesis port
  | pause milliseconds next inductionHypothesis => exact inductionHypothesis port
  | call request next inductionHypothesis =>
      simp only [run, List.cons_append, Transcript.calls_called,
        Transcript.calls_map_noted_append]
      exact inductionHypothesis _ _

theorem answered_append (port : Port) (first second : List Exchange) :
    Answered port (first ++ second) ↔
      Answered port first ∧ Answered (portAfter port first) second := by
  induction first generalizing port with
  | nil => simp [Answered, portAfter]
  | cons exchange rest inductionHypothesis =>
      simp only [List.cons_append, Answered, inductionHypothesis, and_assoc]
      rfl

end Run

end Dialogue

end BaudSwitch
