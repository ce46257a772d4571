import BaudSwitch.Dialogue

/-!
# Reading a line against a deadline

A line delivers octets in arrivals of any size.  One read window collects them until it has as
many as it wants, or its time is up, or the line falls silent.  Before each read the line is
told how long that read may take, so that no read outlasts the window.
-/

namespace BaudSwitch

/-- The kinds of failed reads. -/
inductive Arrival.Failure where
  | timedOut
  /-- The read was disturbed and can be tried again. -/
  | interrupted
  | brokenPipe
  | wouldBlock
  | unexpectedEof
  | permissionDenied
  | other
  deriving DecidableEq, Repr

/-- What one read of a line meets. -/
inductive Arrival where
  /-- Octets, and the milliseconds that pass until they are there. None at all ends a window. -/
  | data (bytes : Bytes) (delay : Nat)
  | failure (kind : Arrival.Failure) (reason : String)
  deriving DecidableEq, Repr

/-- A clock that never runs backwards. -/
structure Clock where
  now : Nat := 0
  /-- The time that passes before each coming look at the clock; afterwards none does. -/
  lapses : List Nat := []
  deriving DecidableEq, Repr

namespace Clock

/-- Let time pass until the next look at the clock. -/
def look (clock : Clock) : Clock :=
  match clock.lapses with
  | [] => clock
  | lapse :: later => ⟨clock.now + lapse, later⟩

def pass (clock : Clock) (milliseconds : Nat) : Clock :=
  { clock with now := clock.now + milliseconds }

end Clock

structure Line where
  /-- What the coming reads meet; then all of them time out. -/
  arrivals : List Arrival := []
  clock : Clock := {}
  deriving DecidableEq, Repr

/-- What a window does with the line. -/
inductive Line.Act where
  /-- Say how long the next read may take. -/
  | limitRead (milliseconds : Nat)
  /-- Read at most `room` octets, at a time. -/
  | read (room time : Nat)
  deriving DecidableEq, Repr

/-- The end of a read window. -/
structure Window where
  result : Answer
  line : Line
  acts : List Line.Act

namespace Window

/-- Put octets that were read earlier in front. A failure loses them. -/
def after (bytes : Bytes) (window : Window) : Window :=
  { window with result := window.result.map (bytes ++ ·) }

/-- Put earlier acts in front. -/
def doing (acts : List Line.Act) (window : Window) : Window :=
  { window with acts := acts ++ window.acts }

end Window

namespace Line

/-- A window that ends here with what it has. -/
def stop (clock : Clock) (arrivals : List Arrival) : Window :=
  { result := .ok [], line := ⟨arrivals, clock⟩, acts := [] }

/-- A window that ends here with a failure. -/
def fail (cause : PortError) (clock : Clock) (arrivals : List Arrival) : Window :=
  { result := .error cause, line := ⟨arrivals, clock⟩, acts := [] }

/-- What is left of octets of which a read took some. -/
def leave (bytes : Bytes) (arrivals : List Arrival) : List Arrival :=
  if bytes = [] then arrivals else .data bytes 0 :: arrivals

/-- Collect at most `room` octets before the deadline. A read that times out ends the window with
what it has, a disturbed one is tried again, and any other failure is one of the window. `refusal`
says which attempt to limit a read fails; `turn` counts the attempts so far. -/
def collect (refusal : Nat → Option PortError) (deadline : Nat) :
    (turn room : Nat) → Clock → List Arrival → Window
  | turn, room, clock, arrivals =>
      if room = 0 then stop clock arrivals
      else
        let clock := clock.look
        if deadline ≤ clock.now then stop clock arrivals
        else
          match refusal turn with
          | some cause => (fail cause clock arrivals).doing [.limitRead (deadline - clock.now)]
          | none =>
              Window.doing [.limitRead (deadline - clock.now), .read room clock.now] <|
                match arrivals with
                | [] => stop clock []
                | .failure kind reason :: later =>
                    match kind with
                    | .timedOut => stop clock later
                    | .interrupted => collect refusal deadline (turn + 1) room clock later
                    | _ => fail (.io reason) clock later
                | .data bytes delay :: later =>
                    let clock := clock.pass delay
                    if bytes = [] then stop clock later
                    else if bytes.length ≤ room then
                      (collect refusal deadline (turn + 1) (room - bytes.length) clock later).after
                        bytes
                    else
                      (stop clock (leave (bytes.drop room) later)).after (bytes.take room)

/-- Read one window of at most `limit` octets that lasts so many milliseconds. Left out: that there
may be no memory for so many octets, and that the deadline may be beyond what a clock can show. -/
def readWindow (line : Line) (limit window : Nat)
    (refusal : Nat → Option PortError := fun _ => none) : Window :=
  let clock := line.clock.look
  collect refusal (clock.now + window) 0 limit clock line.arrivals

def pending (line : Line) : Bytes :=
  line.arrivals.flatMap fun
    | .data bytes _ => bytes
    | _ => []

end Line

end BaudSwitch
