import BaudSwitch.Command
import BaudSwitch.Stage
import BaudSwitch.Text.Screen
import BaudSwitch.Traffic

/-!
# Notices

The journal tells what happens while it happens.  A notice is the event; its level and its
wording follow from it.
-/

namespace BaudSwitch

/-- How much a notice matters, from most to least. -/
inductive Level where
  | warn
  | info
  | debug
  | trace
  deriving DecidableEq, Repr

namespace Level

def rank : Level → Nat
  | .warn => 0
  | .info => 1
  | .debug => 2
  | .trace => 3

/-- The name in front of a line of the journal. -/
def name : Level → String
  | .warn => "WARN"
  | .info => "INFO"
  | .debug => "DEBUG"
  | .trace => "TRACE"

/-- A journal kept at the first level shows notices of the second. -/
def shows (kept level : Level) : Bool :=
  level.rank ≤ kept.rank

end Level

inductive Notice where
  | opening (port : String) (baud : UInt32)
  | opened (port : String) (baud : UInt32)
  | closed (port : String)
  | requesting (command : Command)
  | sending (bytes : Bytes)
  | received (raw : Bytes)
  | discarding (cause : Packet.Error)
  | unanswered (baud : UInt32)
  | setting (baud : UInt32)
  | console (output : Bytes)
  | sessionEnded (baud : UInt32) (traffic : Traffic)
  | reopening (baud : UInt32)
  | advanced (before after : Stage)
  | dividerSet (divider : UInt32)
  | rateKept (baud : UInt32)
  | totals (traffic : Traffic)
  deriving DecidableEq, Repr

namespace Notice

def level : Notice → Level
  | .discarding _ | .rateKept _ => .warn
  | .opening .. | .setting _ | .reopening _ => .info
  | .requesting _ | .advanced .. => .trace
  | _ => .debug

def message : Notice → String
  | .opening port baud => "Opening serial port " ++ port ++ s!" at {baud.toNat} baud"
  | .opened port baud => "Opened " ++ port ++ s!" at {baud.toNat} baud"
  | .closed port => "Closed " ++ port
  | .requesting command => "Request: " ++ command.text
  | .sending bytes => "Tx: " ++ Printable.text bytes
  | .received raw => "Rx: " ++ Printable.text raw
  | .discarding cause => "Discarding reply: " ++ cause.message
  | .unanswered baud =>
      s!"No qSupported reply at {baud.toNat} baud, leaving divider unchanged"
  | .setting baud => s!"Setting {baud.toNat} baud"
  | .console output => "Monitor: " ++ Printable.text output
  | .sessionEnded baud traffic => s!"Session at {baud.toNat} baud: " ++ traffic.text
  | .reopening baud => s!"Reopening at {baud.toNat} baud"
  | .advanced before after => before.name ++ " -> " ++ after.name
  | .dividerSet divider => s!"UART divider set to {divider.toNat}"
  | .rateKept baud => s!"No reply at {baud.toNat} baud, speed change was not sent"
  | .totals traffic => "Handshake totals: " ++ traffic.text

def entry (notice : Notice) : String :=
  notice.level.name ++ " " ++ notice.message

def line (notice : Notice) : String :=
  Screen.text notice.entry

end Notice

end BaudSwitch
