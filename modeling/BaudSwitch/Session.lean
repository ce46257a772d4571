import BaudSwitch.Dialogue

/-!
# Sessions

A session is a port opened at one rate, together with its books.  It writes packets and
acknowledgements, and reads one reply per window.
-/

namespace BaudSwitch

structure Session where
  baud : UInt32
  /-- How many octets one reply may have. -/
  maxResponse : UInt64
  /-- Whether a reply with a wrong trailer counts as silence. -/
  verifyChecksums : Bool
  traffic : Traffic := {}
  deriving DecidableEq, Repr

structure Session.Options where
  port : String
  baud : UInt32
  /-- How long one read waits, in milliseconds. -/
  window : UInt64
  maxResponse : UInt64
  verifyChecksums : Bool
  deriving DecidableEq, Repr

/-- Work on an opened port. A failed call leaves the books as they were before it. -/
abbrev SessionM := ExceptT PortError (StateT Session Dialogue)

namespace Session

def tell (notice : Notice) : SessionM Unit :=
  fun session => do
    Dialogue.tell notice
    return (.ok (), session)

/-- Ask the port; its failure ends the work. -/
def ask (request : Call) : SessionM Bytes :=
  fun session => do
    let answer ← Dialogue.ask request
    return (answer, session)

def enter (traffic : Traffic) : SessionM Unit :=
  modify fun session => { session with traffic := session.traffic + traffic }

/-- What a reply says. When replies are verified, a bad one is dropped and says nothing. -/
def payload (verify : Bool) (raw : Bytes) : Except Packet.Error Bytes :=
  if verify then Packet.extractVerified raw else .ok (Packet.extract raw)

def connect (options : Options) : Dialogue (Except PortError Session) := do
  match ← Dialogue.ask (.connect options.port options.baud options.window) with
  | .ok _ =>
      return .ok
        { baud := options.baud
          maxResponse := options.maxResponse
          verifyChecksums := options.verifyChecksums }
  | .error cause => return .error cause

def send (command : Command) : SessionM Unit := do
  let packet := Packet.frame command.payload
  tell (.sending packet)
  let _ ← ask (.write packet)
  enter (.packet packet.length)

/-- Read one reply. Silence is an answer too, an empty one. -/
def receive : SessionM Bytes := do
  let raw ← ask (.read (← get).maxResponse)
  tell (.received raw)
  let body ←
    match payload (← get).verifyChecksums raw with
    | .ok body => pure body
    | .error cause => do
        tell (.discarding cause)
        pure []
  enter (.reply raw.length (body != []))
  return body

def request (command : Command) : SessionM Bytes := do
  tell (.requesting command)
  send command
  receive

/-- Tell the stub that its packet arrived. -/
def acknowledge : SessionM Unit := do
  tell (.sending Packet.acknowledgement)
  let _ ← ask (.write Packet.acknowledgement)
  enter .acknowledgement

/-- Close the port and hand over the books. The session is over even if closing fails. -/
def close (session : Session) : Dialogue (Except PortError Traffic) := do
  match ← Dialogue.ask .close with
  | .ok _ => return .ok session.traffic
  | .error cause => return .error cause

end Session

end BaudSwitch
