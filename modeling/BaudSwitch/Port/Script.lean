import BaudSwitch.Dialogue

/-!
# Scripted ports

A port for rehearsals: reads return prepared replies, and chosen calls fail.
-/

namespace BaudSwitch

/-- The kinds of calls, counted apart. -/
inductive Call.Kind where
  | connect
  | write
  | read
  | close
  deriving DecidableEq, Repr

def Call.kind : Call → Call.Kind
  | .connect .. => .connect
  | .write _ => .write
  | .read _ => .read
  | .close => .close

inductive Fault where
  | serial (reason : String)
  | io (reason : String)
  deriving DecidableEq, Repr

/-- What the caller sees of a fault. A port that does not open is always named. -/
def Fault.cause : Fault → Call → PortError
  | .serial reason, .connect port .. | .io reason, .connect port .. => .cannotOpen port reason
  | .serial reason, _ => .serial reason
  | .io reason, _ => .io reason

/-- A port that follows a script over all its openings. -/
structure Script where
  /-- What the reads return, one each; then nothing. -/
  replies : List Bytes
  /-- The rates at which the port cannot be opened. -/
  unavailable : List UInt32 := []
  /-- The fault of a call, by its kind and the number of calls of that kind before it. -/
  fault : Call.Kind → Nat → Option Fault := fun _ _ => none
  /-- The kinds of the calls so far, failed ones included, the latest first. -/
  made : List Call.Kind := []

namespace Script

def unavailableReason : String := "scripted failure"

/-- What a call that is not made to fail does. A reply is cut to what the read takes, and the
rest of it is lost. -/
def perform (script : Script) : Call → Response Script
  | .connect port baud _ =>
      if baud ∈ script.unavailable then
        { answer := .error (.cannotOpen port unavailableReason), port := script }
      else { answer := .ok [], port := script }
  | .read limit =>
      match script.replies with
      | [] => { answer := .ok [], port := script }
      | reply :: later =>
          { answer := .ok (reply.take limit.toNat), port := { script with replies := later } }
  | _ => { answer := .ok [], port := script }

/-- Answer a call. One that fails takes no reply. -/
def respond (script : Script) (call : Call) : Response Script :=
  let counted := { script with made := call.kind :: script.made }
  match script.fault call.kind (script.made.count call.kind) with
  | some fault => { answer := .error (fault.cause call), port := counted }
  | none => counted.perform call

instance : Answering Script := ⟨respond⟩

end Script

end BaudSwitch
