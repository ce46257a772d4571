import BaudSwitch.Port.Script
import BaudSwitch.Proofs.Dialogue.FailStop

/-!
# Answers of a script

Which call a script refuses depends on the calls before it alone.  A call that is not refused
succeeds, and each read brings the next prepared reply.  So a dialogue that stops at failures
goes along with its run on the script without faults, up to the first refused call.
-/

namespace BaudSwitch

/-- What a call brings that is not refused. -/
def Call.brings (replies : List Bytes) : Call → Bytes
  | .read limit => (replies.getD 0 []).take limit.toNat
  | _ => []

/-- The replies that are left after a call that is not refused. -/
def Call.leaves (replies : List Bytes) : Call → List Bytes
  | .read _ => replies.drop 1
  | _ => replies

/-- Every call succeeds, and the reads bring these replies in turn, then nothing. -/
def Served : List Bytes → List Exchange → Prop
  | _, [] => True
  | replies, (request, answer) :: rest =>
      answer = .ok (request.brings replies) ∧ Served (request.leaves replies) rest

namespace Served

variable {replies : List Bytes} {answer : Answer} {exchanges : List Exchange}

@[simp]
theorem connect_iff {port : String} {baud : UInt32} {window : UInt64} :
    Served replies ((.connect port baud window, answer) :: exchanges) ↔
      answer = .ok [] ∧ Served replies exchanges := Iff.rfl

@[simp]
theorem write_iff {bytes : Bytes} :
    Served replies ((.write bytes, answer) :: exchanges) ↔
      answer = .ok [] ∧ Served replies exchanges := Iff.rfl

@[simp]
theorem read_iff {limit : UInt64} :
    Served replies ((.read limit, answer) :: exchanges) ↔
      answer = .ok ((replies.getD 0 []).take limit.toNat) ∧
        Served (replies.drop 1) exchanges := Iff.rfl

@[simp]
theorem close_iff :
    Served replies ((.close, answer) :: exchanges) ↔
      answer = .ok [] ∧ Served replies exchanges := Iff.rfl

theorem error_notMem (served : Served replies exchanges) (request : Call) (cause : PortError) :
    (request, .error cause) ∉ exchanges := by
  induction exchanges generalizing replies with
  | nil => exact List.not_mem_nil
  | cons exchange rest inductionHypothesis =>
      obtain ⟨answered, onward⟩ := served
      intro membership
      rcases List.mem_cons.mp membership with same | membership
      · subst same
        cases answered
      · exact inductionHypothesis onward membership

theorem succeeded (served : Served replies exchanges) :
    exchanges.filterMap Exchange.succeeded? = exchanges.map Prod.fst := by
  induction exchanges generalizing replies with
  | nil => rfl
  | cons exchange rest inductionHypothesis =>
      obtain ⟨request, _⟩ := exchange
      obtain ⟨rfl, onward⟩ := served
      exact congrArg (request :: ·) (inductionHypothesis onward)

/-- Two courses of one dialogue that are served the same replies are one course, and what follows
it is served the same replies as well. -/
theorem unique {Value : Type} {dialogue : Dialogue Value} {value otherValue : Value}
    {others later otherLater : List Exchange} (course : dialogue.Yields exchanges value)
    (other : dialogue.Yields others otherValue) (served : Served replies (exchanges ++ later))
    (otherServed : Served replies (others ++ otherLater)) :
    others = exchanges ∧ otherValue = value ∧
      ∃ left, Served left later ∧ Served left otherLater := by
  induction course generalizing others replies with
  | done value =>
      obtain ⟨rfl, rfl⟩ := Dialogue.yields_done_iff.mp other
      exact ⟨rfl, rfl, replies, served, otherServed⟩
  | note course inductionHypothesis =>
      exact inductionHypothesis (Dialogue.yields_note_iff.mp other) served otherServed
  | pause course inductionHypothesis =>
      exact inductionHypothesis (Dialogue.yields_pause_iff.mp other) served otherServed
  | call answer course inductionHypothesis =>
      obtain ⟨otherAnswer, rest, rfl, otherCourse⟩ := Dialogue.yields_call_iff.mp other
      obtain ⟨rfl, onward⟩ := served
      obtain ⟨rfl, otherOnward⟩ := otherServed
      obtain ⟨rfl, same⟩ := inductionHypothesis otherCourse onward otherOnward
      exact ⟨rfl, same⟩

end Served

namespace Script

/-- Why the script refuses a call that comes after these. -/
def refusal? (script : Script) (earlier : List Call) (call : Call) : Option PortError :=
  match script.fault call.kind
      ((earlier.map Call.kind).count call.kind + script.made.count call.kind) with
  | some fault => some (fault.cause call)
  | none =>
      match call with
      | .connect port baud _ =>
          if baud ∈ script.unavailable then some (.cannotOpen port unavailableReason) else none
      | _ => none

/-- None of these calls, made in this order, is refused. -/
def Grants (script : Script) (calls : List Call) : Prop :=
  ∀ earlier call later, calls = earlier ++ call :: later → script.refusal? earlier call = none

/-- The same script with every call allowed. -/
def faultless (script : Script) : Script :=
  { script with unavailable := [], fault := fun _ _ => none }

/-- The script after a call that it did not refuse. -/
def granted (script : Script) (call : Call) : Script :=
  { script with replies := call.leaves script.replies, made := call.kind :: script.made }

theorem respond_eq (script : Script) (call : Call) :
    script.respond call =
      match script.refusal? [] call with
      | some cause =>
          { answer := .error cause, port := { script with made := call.kind :: script.made } }
      | none =>
          { answer := .ok (call.brings script.replies), port := script.granted call } := by
  cases found : script.fault call.kind (script.made.count call.kind) with
  | some fault => simp [respond, refusal?, found]
  | none =>
      cases call with
      | connect port baud window =>
          by_cases closed : baud ∈ script.unavailable <;>
            simp [respond, refusal?, found, closed, perform, granted, Call.brings, Call.leaves]
      | write bytes => simp [respond, refusal?, found, perform, granted, Call.brings, Call.leaves]
      | read limit =>
          cases prepared : script.replies <;>
            simp [respond, refusal?, found, prepared, perform, granted, Call.brings, Call.leaves]
      | close => simp [respond, refusal?, found, perform, granted, Call.brings, Call.leaves]

theorem refusal?_faultless (script : Script) (earlier : List Call) (call : Call) :
    script.faultless.refusal? earlier call = none := by
  cases call <;> simp [refusal?, faultless]

/-- What was granted before counts as made before. -/
theorem refusal?_granted (script : Script) (first : Call) (earlier : List Call) (call : Call) :
    (script.granted first).refusal? earlier call = script.refusal? (first :: earlier) call := by
  have counts : (earlier.map Call.kind).count call.kind +
      (first.kind :: script.made).count call.kind =
      ((first :: earlier).map Call.kind).count call.kind + script.made.count call.kind := by
    simp only [List.map_cons, List.count_cons]
    omega
  simp only [refusal?, granted, counts]
  rfl

theorem grants_cons {script : Script} {first : Call} {rest : List Call}
    (allowed : script.refusal? [] first = none) (onward : (script.granted first).Grants rest) :
    script.Grants (first :: rest) := by
  intro earlier call later split
  cases earlier with
  | nil =>
      cases split
      exact allowed
  | cons other earlier =>
      cases split
      rw [← refusal?_granted]
      exact onward earlier call later rfl

theorem served_of_answered {script : Script} {exchanges : List Exchange}
    (answered : Dialogue.Answered script.faultless exchanges) :
    Served script.replies exchanges := by
  induction exchanges generalizing script with
  | nil => trivial
  | cons exchange rest inductionHypothesis =>
      obtain ⟨request, answer⟩ := exchange
      obtain ⟨same, onward⟩ := answered
      change answer = (script.faultless.respond request).answer at same
      change Dialogue.Answered (script.faultless.respond request).port rest at onward
      rw [respond_eq, refusal?_faultless] at same onward
      exact ⟨same, @inductionHypothesis (script.granted request) onward⟩

/-- A read brings no more than it asks for. -/
theorem length_of_answered {script : Script} {exchanges : List Exchange}
    (answered : Dialogue.Answered script exchanges) {limit : UInt64} {raw : Bytes}
    (taken : (.read limit, .ok raw) ∈ exchanges) : raw.length ≤ limit.toNat := by
  induction exchanges generalizing script with
  | nil => cases taken
  | cons exchange rest inductionHypothesis =>
      obtain ⟨request, answer⟩ := exchange
      obtain ⟨same, onward⟩ := answered
      rcases List.mem_cons.mp taken with first | later
      · cases first
        change _ = (script.respond (.read limit)).answer at same
        rw [respond_eq] at same
        split at same
        · cases same
        · cases same
          exact List.length_take_le _ _
      · exact inductionHypothesis onward later

section Run

variable {Value : Type} {request : Call} {next : Answer → Dialogue Value} {script : Script}

theorem run_call_of_granted (allowed : script.refusal? [] request = none) :
    (Dialogue.call request next).run script =
      let rest := (next (.ok (request.brings script.replies))).run (script.granted request)
      { rest with
        transcript :=
          .called request (.ok (request.brings script.replies)) :: rest.transcript } := by
  have response : Answering.respond script request = script.respond request := rfl
  rw [Dialogue.run, response, respond_eq, allowed]
  rfl

theorem run_call_of_refused {cause : PortError} {value : Value}
    (refused : script.refusal? [] request = some cause)
    (ended : next (.error cause) = .done value) :
    ((Dialogue.call request next).run script).value = value ∧
      ((Dialogue.call request next).run script).transcript =
        [.called request (.error cause)] := by
  have response : Answering.respond script request = script.respond request := rfl
  rw [Dialogue.run, response, respond_eq, refused]
  simp only [ended]
  exact ⟨rfl, rfl⟩

end Run

/-- A dialogue that stops at failures does on a script just what it does on the script without
faults, if none of those calls is refused; else it does the same up to the first that is, makes
that call too, and ends there. -/
theorem run_of_stopsAtFailure {Value : Type} {names : PortError → Value → Prop}
    {dialogue : Dialogue Value} (stops : dialogue.StopsAtFailure names) (script : Script) :
    (script.Grants (dialogue.run script.faultless).transcript.requests ∧
      (dialogue.run script).value = (dialogue.run script.faultless).value ∧
      (dialogue.run script).transcript = (dialogue.run script.faultless).transcript) ∨
    ∃ earlier call answer later cause,
      (dialogue.run script.faultless).transcript.calls = earlier ++ (call, answer) :: later ∧
      script.Grants (earlier.map Prod.fst) ∧
      script.refusal? (earlier.map Prod.fst) call = some cause ∧
      names cause (dialogue.run script).value ∧
      (dialogue.run script).transcript.calls = earlier ++ [(call, .error cause)] ∧
      (dialogue.run script).transcript.events = earlier.map Prod.fst := by
  induction dialogue generalizing script with
  | done value =>
      refine .inl ⟨?_, rfl, rfl⟩
      intro earlier call later split
      simp [Dialogue.run, Transcript.requests] at split
  | note notice next inductionHypothesis =>
      rcases inductionHypothesis stops script with ⟨grants, value, transcript⟩ | failed
      · exact .inl ⟨grants, value, congrArg (Entry.noted notice :: ·) transcript⟩
      · exact .inr failed
  | pause milliseconds next inductionHypothesis =>
      rcases inductionHypothesis stops script with ⟨grants, value, transcript⟩ | failed
      · exact .inl ⟨grants, value, congrArg (Entry.paused milliseconds :: ·) transcript⟩
      · exact .inr failed
  | call request next inductionHypothesis =>
      have sound := @run_call_of_granted _ request next _ (refusal?_faultless script [] request)
      cases refusal : script.refusal? [] request with
      | some cause =>
          obtain ⟨value, ended, named⟩ := stops.1 cause
          obtain ⟨gave, made⟩ := run_call_of_refused refusal ended
          refine .inr ⟨[], request, _, _, cause, by rw [sound]; rfl, ?_, refusal, ?_, ?_, ?_⟩
          · intro earlier call later split
            simp at split
          · rw [gave]
            exact named
          · rw [made]
            rfl
          · rw [made]
            rfl
      | none =>
          -- Once granted, the call counts as made: the rest goes by the script after it.
          have actual := @run_call_of_granted _ request next _ refusal
          rcases inductionHypothesis _ (stops.2 _) (script.granted request) with
            ⟨grants, value, transcript⟩ |
              ⟨earlier, call, answer, later, cause, split, grants, refused, named, made, happened⟩
          · refine .inl ⟨?_, ?_, ?_⟩
            · rw [sound]
              exact grants_cons refusal grants
            · rw [actual, sound]
              exact value
            · rw [actual, sound]
              exact congrArg (Entry.called request _ :: ·) transcript
          · refine .inr ⟨(request, .ok (request.brings script.replies)) :: earlier, call, answer,
              later, cause, ?_, grants_cons refusal grants, ?_, ?_, ?_, ?_⟩
            · rw [sound]
              exact congrArg ((request, _) :: ·) split
            · rw [List.map_cons, ← refusal?_granted]
              exact refused
            · rw [actual]
              exact named
            · rw [actual]
              exact congrArg ((request, _) :: ·) made
            · rw [actual]
              exact congrArg (request :: ·) happened

end Script

end BaudSwitch
