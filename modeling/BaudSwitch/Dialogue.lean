import BaudSwitch.Notice

/-!
# Dialogues

A dialogue is everything that one side of a line may do, as a finite tree: at each call it
branches on what the port answers.  Running it against a port follows one path, and the
transcript of the run is that path.
-/

namespace BaudSwitch

inductive PortError where
  | cannotOpen (port reason : String)
  | serial (reason : String)
  | io (reason : String)
  deriving DecidableEq, Repr

def PortError.message : PortError → String
  | .cannotOpen port reason => "Can't open serial port " ++ port ++ ": " ++ reason
  | .serial reason => "Serial port error: " ++ reason
  | .io reason => "IO error: " ++ reason

inductive Call where
  /-- Open a port at a rate, for reads that wait so many milliseconds. -/
  | connect (port : String) (baud : UInt32) (window : UInt64)
  | write (bytes : Bytes)
  /-- Read one window of at most so many octets. -/
  | read (limit : UInt64)
  | close
  deriving DecidableEq, Repr

/-- What a port says to a call. Only a read brings octets; other calls succeed with none. -/
abbrev Answer := Except PortError Bytes

instance decidableEqExcept {Cause Value : Type} [DecidableEq Cause] [DecidableEq Value] :
    DecidableEq (Except Cause Value)
  | .ok first, .ok second =>
      if same : first = second then .isTrue (by rw [same])
      else .isFalse (by intro equal; cases equal; exact same rfl)
  | .error first, .error second =>
      if same : first = second then .isTrue (by rw [same])
      else .isFalse (by intro equal; cases equal; exact same rfl)
  | .ok _, .error _ => .isFalse (by intro equal; cases equal)
  | .error _, .ok _ => .isFalse (by intro equal; cases equal)

inductive Entry where
  | noted (notice : Notice)
  | paused (milliseconds : UInt64)
  | called (call : Call) (answer : Answer)
  deriving DecidableEq

abbrev Transcript := List Entry

/-- What one side of the line does, whatever the port answers. -/
inductive Dialogue (Value : Type) where
  | done (value : Value)
  | note (notice : Notice) (next : Dialogue Value)
  | pause (milliseconds : UInt64) (next : Dialogue Value)
  | call (request : Call) (next : Answer → Dialogue Value)

namespace Dialogue

variable {First Second : Type}

/-- Go on after the end of a dialogue. -/
def bind : Dialogue First → (First → Dialogue Second) → Dialogue Second
  | done value, andThen => andThen value
  | note notice next, andThen => note notice (next.bind andThen)
  | pause milliseconds next, andThen => pause milliseconds (next.bind andThen)
  | call request next, andThen => call request fun answer => (next answer).bind andThen

instance : Monad Dialogue where
  pure := done
  bind := bind

def tell (notice : Notice) : Dialogue Unit :=
  note notice (done ())

def ask (request : Call) : Dialogue Answer :=
  call request done

def wait (milliseconds : UInt64) : Dialogue Unit :=
  pause milliseconds (done ())

end Dialogue

/-- What a port does at a call: its answer, what it tells the journal, and the port afterwards. -/
structure Response (Port : Type) where
  answer : Answer
  notices : List Notice := []
  port : Port

/-- A state that answers calls. -/
class Answering (Port : Type) where
  respond : Port → Call → Response Port

structure Run (Port Value : Type) where
  value : Value
  port : Port
  transcript : Transcript

namespace Dialogue

variable {Port Value : Type} [Answering Port]

def run : Dialogue Value → Port → Run Port Value
  | done value, port => ⟨value, port, []⟩
  | note notice next, port =>
      let rest := next.run port
      { rest with transcript := .noted notice :: rest.transcript }
  | pause milliseconds next, port =>
      let rest := next.run port
      { rest with transcript := .paused milliseconds :: rest.transcript }
  | call request next, port =>
      let response := Answering.respond port request
      let rest := (next response.answer).run response.port
      { rest with
        transcript :=
          .called request response.answer :: response.notices.map .noted ++ rest.transcript }

end Dialogue

namespace Transcript

/-- The notices of a run that a journal kept at this level shows. -/
def journal (kept : Level) (transcript : Transcript) : List Notice :=
  transcript.filterMap fun
    | .noted notice => if kept.shows notice.level then some notice else none
    | _ => none

def calls (transcript : Transcript) : List (Call × Answer) :=
  transcript.filterMap fun
    | .called request answer => some (request, answer)
    | _ => none

/-- The calls of a run that succeeded. -/
def events (transcript : Transcript) : List Call :=
  transcript.filterMap fun
    | .called request (.ok _) => some request
    | _ => none

/-- What was written in a run, write by write. -/
def writes (transcript : Transcript) : List Bytes :=
  transcript.filterMap fun
    | .called (.write bytes) (.ok _) => some bytes
    | _ => none

end Transcript

end BaudSwitch
