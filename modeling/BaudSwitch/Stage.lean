/-!
# Stages

A switch passes through five stages in a fixed order and ends with one of two outcomes.
-/

namespace BaudSwitch

inductive Outcome where
  /-- The stub answered at the new rate. -/
  | confirmed
  /-- Nothing came back at the new rate. -/
  | noResponse
  deriving DecidableEq, Repr

/-- What is to be done next. -/
inductive Stage where
  /-- Open the port at the initial rate. -/
  | openOld
  /-- Send a probe and acknowledge whatever comes back. -/
  | probe
  /-- Ask what the stub supports and, if it answers, have it take the new rate. -/
  | querySupportedOld
  /-- Close the port and open it at the target rate. -/
  | reopen
  /-- Ask again to see whether the stub followed. -/
  | querySupportedNew
  | done (outcome : Outcome)
  deriving DecidableEq, Repr

namespace Outcome

def name : Outcome → String
  | .confirmed => "Confirmed"
  | .noResponse => "NoResponse"

end Outcome

namespace Stage

/-- The outcome so far: while stages are left, nothing has been confirmed. -/
def outcome : Stage → Outcome
  | .done outcome => outcome
  | _ => .noResponse

def name : Stage → String
  | .openOld => "OpenOld"
  | .probe => "Probe"
  | .querySupportedOld => "QuerySupportedOld"
  | .reopen => "Reopen"
  | .querySupportedNew => "QuerySupportedNew"
  | .done outcome => "Done(" ++ outcome.name ++ ")"

end Stage

end BaudSwitch
