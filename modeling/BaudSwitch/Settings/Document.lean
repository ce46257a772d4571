import BaudSwitch.Settings
import BaudSwitch.Toml.Parser
import BaudSwitch.Toml.Printer

/-!
# Settings as a document

A document gives settings by section and key.  A section that it does not mention has the
built-in values of a section, and a key that a section does not mention has the built-in value of
its own; what a document mentions beyond that is ignored.  A section may also be a list, which
gives its values by position.
-/

namespace BaudSwitch.Settings

open Toml (Value Entries Scalar Section)

/-- The values of a section, by key and by position. -/
abbrev Fields := String → Nat → Option Value

/-- The values that a section gives, none if it is no section at all. A date is a section
that gives nothing. -/
def fields? : Value → Option Fields
  | .dateTime _ => some fun _ _ => none
  | .table _ entries => some fun key _ => Entries.find? entries key
  | .array items => some fun _ position => items[position]?
  | .tables elements => some fun _ position => elements[position]?.map (.table .header)
  | _ => none

def text? : Value → Option String
  | .string text => some text
  | _ => none

def flag? : Value → Option Bool
  | .boolean flag => some flag
  | _ => none

def number? (bound : Nat) : Value → Option Nat
  | .integer number =>
      if 0 ≤ number ∧ number < bound then some number.toNat else none
  | _ => none

def word32? (value : Value) : Option UInt32 :=
  (number? UInt32.size value).map UInt32.ofNat

def word64? (value : Value) : Option UInt64 :=
  (number? UInt64.size value).map UInt64.ofNat

section Reading

variable {Kind : Type}

/-- The value of a field, or the built-in one when it is not given; none if it is of the wrong
kind. -/
def field? (fields : Fields) (key : String) (position : Nat) (read : Value → Option Kind)
    (builtIn : Kind) : Option Kind :=
  match fields key position with
  | none => some builtIn
  | some value => read value

/-- What the fields of a section give, or what is built in for the section when it is absent. -/
def fromSection? (held : Option Value) (read : Fields → Option Kind) (builtIn : Kind) :
    Option Kind :=
  match held with
  | none => some builtIn
  | some value => fields? value >>= read

end Reading

def verbose? (general : Fields) : Option Bool :=
  field? general "verbose" 0 flag? false

def line? (serial : Fields) : Option LineSettings := do
  return {
    port := ← field? serial "port" 0 text? BuiltIn.port
    initialBaud := ← field? serial "initial_baud" 1 word32? BuiltIn.initialBaud
    targetBaud := ← field? serial "target_baud" 2 word32? BuiltIn.targetBaud
    readTimeout := ← field? serial "read_timeout_ms" 3 word64? BuiltIn.readTimeout
    maxResponse := ← field? serial "max_response_size" 4 word64? BuiltIn.maxResponse
    settleDelay := ← field? serial "settle_delay_ms" 5 word64? BuiltIn.settleDelay }

def target? (target : Fields) : Option TargetSettings := do
  return {
    clock := ← field? target "system_clock_hz" 0 word32? BuiltIn.clock
    baudRegister := ← field? target "baud_register" 1 word32? BuiltIn.baudRegister }

def verifyChecksums? (protocol : Fields) : Option Bool :=
  field? protocol "verify_checksums" 0 flag? false

def ofEntries? (entries : Entries) : Option Settings := do
  let builtIn : Settings := {}
  return {
    verbose := ← fromSection? (entries.find? "general") verbose? builtIn.verbose
    line := ← fromSection? (entries.find? "serial") line? builtIn.line
    target := ← fromSection? (entries.find? "target") target? builtIn.target
    verifyChecksums :=
      ← fromSection? (entries.find? "protocol") verifyChecksums? builtIn.verifyChecksums }

def parse? (text : String) : Option Settings :=
  Toml.parse? text >>= ofEntries?

/-- The sections of a document, every key in its place. -/
def sections (settings : Settings) : List Section :=
  [ { name := "general", entries := [("verbose", .flag settings.verbose)] },
    { name := "serial"
      entries :=
        [ ("port", .text settings.line.port),
          ("initial_baud", .number settings.line.initialBaud.toNat),
          ("target_baud", .number settings.line.targetBaud.toNat),
          ("read_timeout_ms", .number settings.line.readTimeout.toNat),
          ("max_response_size", .number settings.line.maxResponse.toNat),
          ("settle_delay_ms", .number settings.line.settleDelay.toNat) ] },
    { name := "target"
      entries :=
        [ ("system_clock_hz", .number settings.target.clock.toNat),
          ("baud_register", .number settings.target.baudRegister.toNat) ] },
    { name := "protocol", entries := [("verify_checksums", .flag settings.verifyChecksums)] } ]

def Writable (settings : Settings) : Prop :=
  settings.line.readTimeout.toNat < Toml.numberBound ∧
    settings.line.maxResponse.toNat < Toml.numberBound ∧
    settings.line.settleDelay.toNat < Toml.numberBound

instance (settings : Settings) : Decidable settings.Writable :=
  inferInstanceAs (Decidable (_ ∧ _))

def print? (settings : Settings) : Option String :=
  if settings.Writable then some (String.ofList (Toml.printSections settings.sections)) else none

end BaudSwitch.Settings
