import BaudSwitch.Divider

/-!
# Settings

What a run needs to know, with the built-in values, and the check that a run can work with them.
-/

namespace BaudSwitch

namespace BuiltIn

def port : String := "/dev/ttyUSB0"

def initialBaud : UInt32 := 115200

def targetBaud : UInt32 := 921600

def readTimeout : UInt64 := 200

def maxResponse : UInt64 := 1468

def settleDelay : UInt64 := 10

def clock : UInt32 := 250000000

def baudRegister : UInt32 := 0x20215068

end BuiltIn

structure LineSettings where
  port : String := BuiltIn.port
  initialBaud : UInt32 := BuiltIn.initialBaud
  targetBaud : UInt32 := BuiltIn.targetBaud
  /-- How long one read waits, in milliseconds. -/
  readTimeout : UInt64 := BuiltIn.readTimeout
  /-- How many octets one read takes at most. -/
  maxResponse : UInt64 := BuiltIn.maxResponse
  /-- The pause around the switch, in milliseconds. -/
  settleDelay : UInt64 := BuiltIn.settleDelay
  deriving DecidableEq, Repr

structure TargetSettings where
  /-- The clock that feeds the UART, in hertz. -/
  clock : UInt32 := BuiltIn.clock
  /-- The address of the divider register. -/
  baudRegister : UInt32 := BuiltIn.baudRegister
  deriving DecidableEq, Repr

/-- Everything a run can be told. -/
structure Settings where
  /-- Whether the journal shows every packet. -/
  verbose : Bool := false
  line : LineSettings := {}
  target : TargetSettings := {}
  /-- Whether replies with a wrong trailer are dropped. -/
  verifyChecksums : Bool := false
  deriving DecidableEq, Repr

/-- Why a run cannot work with its settings. -/
inductive Defect where
  | emptyPort
  | zeroBaud
  | zeroResponse
  | zeroClock
  | unreachableBaud (baud clock : UInt32)
  deriving DecidableEq, Repr

namespace Defect

def reason : Defect → String
  | .emptyPort => "serial port name is empty"
  | .zeroBaud => "baud rates must be non-zero"
  | .zeroResponse => "max_response_size must be non-zero"
  | .zeroClock => "system_clock_hz must be non-zero"
  | .unreachableBaud baud clock =>
      s!"{baud.toNat} baud cannot be derived from a {clock.toNat} Hz system clock"

def message (defect : Defect) : String :=
  "Invalid configuration: " ++ defect.reason

end Defect

namespace Settings

/-- The divider that takes the target to its new rate. -/
def divider? (settings : Settings) : Option UInt32 :=
  BaudSwitch.divider? settings.target.clock settings.line.targetBaud

/-- The first reason, in a fixed order, why a run cannot work with these settings. -/
def defect? (settings : Settings) : Option Defect :=
  if settings.line.port = "" then some .emptyPort
  else if settings.line.initialBaud = 0 ∨ settings.line.targetBaud = 0 then some .zeroBaud
  else if settings.line.maxResponse = 0 then some .zeroResponse
  else if settings.target.clock = 0 then some .zeroClock
  else if settings.divider? = none then
    some (.unreachableBaud settings.line.targetBaud settings.target.clock)
  else none

/-- Settings that a run can work with. -/
def Valid (settings : Settings) : Prop :=
  settings.defect? = none

instance (settings : Settings) : Decidable settings.Valid :=
  inferInstanceAs (Decidable (_ = _))

end Settings

end BaudSwitch
