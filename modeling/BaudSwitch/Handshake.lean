import BaudSwitch.Session
import BaudSwitch.Settings

/-!
# The handshake

Open the port at the old rate, probe the stub, ask what it supports and, if it answers, have it
take the new divider; then close the port, open it at the new rate and ask again.  There are no
retries, and silence is an answer.  A stage that fails leaves the handshake at that stage, and
it can be tried again.
-/

namespace BaudSwitch

structure Handshake where
  settings : Settings
  stage : Stage := .openOld
  session : Option Session := none
  divider : Option UInt32 := none
  speedChangeSent : Bool := false
  /-- The books of the sessions that are over. -/
  traffic : Traffic := {}
  deriving DecidableEq, Repr

structure Report where
  outcome : Outcome
  divider : Option UInt32
  speedChangeSent : Bool
  traffic : Traffic
  deriving DecidableEq, Repr

inductive HandshakeError where
  | port (cause : PortError)
  | baudOutOfRange (baud clock : UInt32)
  | notOpen
  deriving DecidableEq, Repr

def HandshakeError.message : HandshakeError → String
  | .port cause => cause.message
  | .baudOutOfRange baud clock => (Defect.unreachableBaud baud clock).reason
  | .notOpen => "No open session"

/-- Work on a handshake. What was done before a failure stays done. -/
abbrev HandshakeM := ExceptT HandshakeError (StateT Handshake Dialogue)

namespace Handshake

def tell (notice : Notice) : HandshakeM Unit :=
  fun handshake => do
    Dialogue.tell notice
    return (.ok (), handshake)

def settle : HandshakeM Unit :=
  fun handshake => do
    Dialogue.wait handshake.settings.line.settleDelay
    return (.ok (), handshake)

def withSession {Value : Type} (work : SessionM Value) : HandshakeM Value :=
  fun handshake =>
    match handshake.session with
    | none => return (.error .notOpen, handshake)
    | some session => do
        let (result, after) ← work session
        return (result.mapError .port, { handshake with session := some after })

def options (handshake : Handshake) (baud : UInt32) : Session.Options where
  port := handshake.settings.line.port
  baud := baud
  window := handshake.settings.line.readTimeout
  maxResponse := handshake.settings.line.maxResponse
  verifyChecksums := handshake.settings.verifyChecksums

def openAt (baud : UInt32) : HandshakeM Unit :=
  fun handshake => do
    match ← Session.connect (handshake.options baud) with
    | .ok session => return (.ok (), { handshake with session := some session })
    | .error cause => return (.error (.port cause), handshake)

/-- Close the port, if it is open, and take over its books. -/
def closeSession : HandshakeM Unit :=
  fun handshake =>
    match handshake.session with
    | none => return (.ok (), handshake)
    | some session => do
        let after := { handshake with session := none }
        match ← session.close with
        | .ok traffic =>
            Dialogue.tell (.sessionEnded session.baud traffic)
            return (.ok (), { after with traffic := after.traffic + traffic })
        | .error cause => return (.error (.port cause), after)

/-- Ask what the stub supports and, if it answers, have it take the new divider. -/
def switchSpeed : HandshakeM Unit := do
  let settings := (← get).settings
  if (← withSession (Session.request .querySupported)) = [] then
    tell (.unanswered ((← get).session.elim 0 Session.baud))
  else
    withSession Session.acknowledge
    tell (.setting settings.line.targetBaud)
    match settings.divider? with
    | none => throw (.baudOutOfRange settings.line.targetBaud settings.target.clock)
    | some divider =>
        let reply ← withSession
          (Session.request (.setDivider settings.target.baudRegister divider))
        match consoleOutput? reply with
        | some output => tell (.console output)
        | none => pure ()
        modify fun handshake =>
          { handshake with divider := some divider, speedChangeSent := true }

/-- Ask at the new rate whether the stub followed. -/
def confirm : HandshakeM Outcome := do
  withSession Session.acknowledge
  if (← withSession (Session.request .querySupported)) = [] then
    closeSession
    return .noResponse
  else
    withSession Session.acknowledge
    settle
    closeSession
    return .confirmed

/-- Do what a stage asks, and name the stage that follows it. -/
def perform : Stage → HandshakeM Stage
  | .openOld => do
      let line := (← get).settings.line
      tell (.opening line.port line.initialBaud)
      openAt line.initialBaud
      return .probe
  | .probe => do
      let _ ← withSession (Session.request .probe)
      withSession Session.acknowledge
      return .querySupportedOld
  | .querySupportedOld => do
      switchSpeed
      return .reopen
  | .reopen => do
      closeSession
      settle
      let baud := (← get).settings.line.targetBaud
      tell (.reopening baud)
      openAt baud
      return .querySupportedNew
  | .querySupportedNew => return .done (← confirm)
  | .done outcome => return .done outcome

/-- Perform the current stage and move to the next. At the end nothing is left to do. -/
def step : HandshakeM Stage := do
  let stage := (← get).stage
  let next ← perform stage
  tell (.advanced stage next)
  modify fun handshake => { handshake with stage := next }
  return next

/-- Perform stages until the end, so many at most. -/
def steps : Nat → HandshakeM Unit
  | 0 => return
  | more + 1 => do
      match ← step with
      | .done _ => return
      | _ => steps more

def report (handshake : Handshake) : Report where
  outcome := handshake.stage.outcome
  divider := handshake.divider
  speedChangeSent := handshake.speedChangeSent
  traffic := handshake.traffic

/-- Perform every stage that is left; there are never more than five. -/
def run : HandshakeM Report := do
  steps 5
  return (← get).report

end Handshake

end BaudSwitch
