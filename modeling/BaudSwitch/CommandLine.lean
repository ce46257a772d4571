import BaudSwitch.FileTree
import BaudSwitch.Settings
import BaudSwitch.Text.Utf8

/-!
# The command line

Options may be given in any order and more than once; a later value replaces an earlier one.
An option that takes a value has it attached or takes the next argument.  A value is looked at
only when the next option or the end of the line shows that it is complete.
-/

namespace BaudSwitch.CommandLine

structure Request where
  verbose : Bool := false
  strict : Bool := false
  printSettings : Bool := false
  baud : Option UInt32 := none
  port : Option String := none
  settingsFile : Option FilePath := none
  writeTo : Option FilePath := none
  deriving DecidableEq, Repr

inductive Flag where
  | verbose
  | strict
  | printSettings
  deriving DecidableEq, Repr

inductive Valued where
  | baud
  | port
  | settingsFile
  | writeTo
  deriving DecidableEq, Repr

inductive Opt where
  | flag (flag : Flag)
  | valued (option : Valued)
  | help
  deriving DecidableEq, Repr

inductive Error where
  /-- An argument, or a letter with its dash, that means nothing. -/
  | unknownArgument (offending : String)
  | missingValue
  | invalidValue
  | needlessValue
  | invalidText
  /-- Not a mistake: the text on the options was asked for. -/
  | helpRequested
  deriving DecidableEq, Repr

/-- The option with a name of one letter. -/
def short? (letter : Char) : Option Opt :=
  if letter = 'v' ∨ letter = 'V' then some (.flag .verbose)
  else if letter = 'b' ∨ letter = 'B' then some (.valued .baud)
  else if letter = 'c' ∨ letter = 'C' then some (.valued .port)
  else none

/-- The option with a longer name. -/
def long? (name : String) : Option Opt :=
  if name = "strict" then some (.flag .strict)
  else if name = "print-config" then some (.flag .printSettings)
  else if name = "config" then some (.valued .settingsFile)
  else if name = "write-config" then some (.valued .writeTo)
  else if name = "help" then some .help
  else none

namespace Request

def raise (request : Request) : Flag → Request
  | .verbose => { request with verbose := true }
  | .strict => { request with strict := true }
  | .printSettings => { request with printSettings := true }

/-- The settings, with what the command line says in place of what they said. -/
def apply (request : Request) (settings : Settings) : Settings :=
  { settings with
    verbose := settings.verbose || request.verbose
    verifyChecksums := settings.verifyChecksums || request.strict
    line :=
      { settings.line with
        targetBaud := request.baud.getD settings.line.targetBaud
        port := request.port.getD settings.line.port } }

end Request

/-- The number that a text of digits spells, with a sign or without. -/
def signed? (text : List Char) : Option Int :=
  let digits (spelled : List Char) : Option Nat :=
    if spelled ≠ [] ∧ spelled.all Char.isDigit then
      some (spelled.foldl (fun number digit => number * 10 + (digit.toNat - 48)) 0)
    else none
  match text with
  | '-' :: spelled => (digits spelled).map fun number => -number
  | '+' :: spelled => (digits spelled).map fun number => number
  | spelled => (digits spelled).map fun number => number

/-- The rate that a text spells: a whole number from one that fits 32 bits. -/
def baud? (text : List Char) : Option UInt32 :=
  match signed? text with
  | some number =>
      if 1 ≤ number ∧ number < UInt32.size then some (UInt32.ofNat number.toNat) else none
  | none => none

/-- The path that octets spell; an empty one is none. -/
def path (value : Bytes) : Except Error FilePath :=
  if value = [] then .error .missingValue else .ok value

def Request.set (request : Request) (option : Valued) (value : Bytes) : Except Error Request :=
  match option with
  | .settingsFile => (path value).map fun path => { request with settingsFile := some path }
  | .writeTo => (path value).map fun path => { request with writeTo := some path }
  | .port =>
      match Utf8.decode? value with
      | some text => .ok { request with port := some text }
      | none => .error .invalidText
  | .baud =>
      match Utf8.decodeChars? value with
      | none => .error .invalidText
      | some text =>
          match baud? text with
          | some baud => .ok { request with baud := some baud }
          | none => .error .invalidValue

/-- A command line that is being read. -/
structure Reading where
  request : Request := {}
  /-- The option read last, if it takes the next argument, and that argument once it came. -/
  pending : Option (Valued × Option Bytes) := none
  /-- Whether two dashes alone ended the options. -/
  wordsOnly : Bool := false
  deriving DecidableEq, Repr

namespace Reading

/-- Look at the value of the last option. -/
def resolve (reading : Reading) : Except Error Reading :=
  match reading.pending with
  | none => .ok reading
  | some (_, none) => .error .missingValue
  | some (option, some value) => do
      return { reading with request := ← reading.request.set option value, pending := none }

def raise (reading : Reading) (flag : Flag) : Except Error Reading := do
  let resolved ← reading.resolve
  return { resolved with request := resolved.request.raise flag }

/-- Take an option with its value attached. -/
def attach (reading : Reading) (option : Valued) (value : Bytes) : Except Error Reading := do
  let resolved ← reading.resolve
  return { resolved with request := ← resolved.request.set option value }

/-- Take an option whose value is the next argument. -/
def await (reading : Reading) (option : Valued) : Except Error Reading := do
  return { ← reading.resolve with pending := some (option, none) }

/-- Take the letters behind a single dash. A letter that takes a value takes all that follows. -/
def letters (reading : Reading) : List Utf8.Piece → Except Error Reading
  | [] => .ok reading
  | piece :: rest =>
      let after := rest.flatMap Utf8.Piece.raw
      match piece.char? with
      | none => .error (.unknownArgument ("-" ++ Utf8.decodeLossy (piece.raw ++ after)))
      | some letter =>
          match short? letter with
          | some (.flag flag) => do
              let raised ← reading.raise flag
              raised.letters rest
          | some (.valued option) =>
              match after with
              | [] => reading.await option
              | first :: value =>
                  reading.attach option (if first = 0x3D then value else first :: value)
          | _ => .error (.unknownArgument (String.ofList ['-', letter]))

/-- Take what stands behind two dashes: a name, perhaps an equals sign and a value. -/
def long (reading : Reading) (argument : Bytes) : Except Error Reading :=
  let name := argument.takeWhile (· != 0x3D)
  let value := argument.dropWhile (· != 0x3D)
  let unknown := Error.unknownArgument ("--" ++ Utf8.decodeLossy name)
  match (Utf8.decode? name).bind long?, value with
  | none, _ => .error unknown
  | some (.valued option), [] => reading.await option
  | some (.valued option), _ :: value => reading.attach option value
  | some _, _ :: _ => .error .needlessValue
  | some (.flag flag), [] => reading.raise flag
  | some .help, [] => do
      let _ ← reading.resolve
      throw .helpRequested

def take (reading : Reading) (argument : Bytes) : Except Error Reading :=
  let unknown := Error.unknownArgument (Utf8.decodeLossy argument)
  if reading.wordsOnly then .error unknown
  else
    match argument with
    | [0x2D, 0x2D] => .ok { reading with wordsOnly := true }
    | 0x2D :: 0x2D :: rest => reading.long rest
    | 0x2D :: first :: rest => reading.letters (Utf8.pieces (first :: rest))
    | word =>
        match reading.pending with
        | some (option, none) => .ok { reading with pending := some (option, some word) }
        | _ => .error unknown

end Reading

/-- Read a command line. The first argument is the name of the program. -/
def parse (arguments : List Bytes) : Except Error Request := do
  let reading ← arguments.tail.foldlM Reading.take {}
  return (← reading.resolve).request

end BaudSwitch.CommandLine
