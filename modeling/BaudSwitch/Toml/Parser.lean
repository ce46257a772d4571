import BaudSwitch.Toml.DateTime
import BaudSwitch.Toml.Table

/-!
# Reading documents

A document is a sequence of lines; a line holds a header, a key with its value, a comment or
nothing.  A reader takes a list of characters and hands over what it read and the rest.  Lists
and inline tables nest to a bounded depth, and reading them goes down that bound; it is one of the
limits within which a document is read.
-/

namespace BaudSwitch.Toml

def skipBlanks (input : List Char) : List Char :=
  input.dropWhile isBlank

/-- What comes after a line end. -/
def lineEnd? : List Char → Option (List Char)
  | '\n' :: rest => some rest
  | '\r' :: '\n' :: rest => some rest
  | _ => none

def skipComment : List Char → List Char
  | '#' :: rest => rest.dropWhile isPlain
  | input => input

/-- What comes after the rest of a line that holds nothing more. -/
def finishLine (input : List Char) : Option (List Char) :=
  match skipComment (skipBlanks input) with
  | [] => some []
  | rest => lineEnd? rest

/-- What comes after blanks, line ends and comments, inside a list. -/
def skipFiller : (comment : Bool) → List Char → Option (List Char)
  | _, '\n' :: rest => skipFiller false rest
  | _, '\r' :: '\n' :: rest => skipFiller false rest
  | false, '#' :: rest => skipFiller true rest
  | false, character :: rest =>
      if isBlank character then skipFiller false rest else some (character :: rest)
  | true, character :: rest => if isPlain character then skipFiller true rest else none
  | _, [] => some []

/-- A character that may stand in a key without quotes. -/
def isBare (character : Char) : Bool :=
  character.isAlphanum || character == '_' || character == '-'

def readName (input : List Char) : Option (String × List Char) :=
  match Quoted.readLine input with
  | some (text, rest) => some (String.ofList text, rest)
  | none =>
      match input.takeWhile isBare with
      | [] => none
      | name => some (String.ofList name, input.dropWhile isBare)

/-- The names of a key, so many at most, with dots between them. -/
def readNames : (limit : Nat) → List Char → Option (List String × List Char)
  | 0, _ => none
  | limit + 1, input => do
      let (name, rest) ← readName (skipBlanks input)
      match skipBlanks rest with
      | '.' :: rest => do
          let (names, rest) ← readNames limit rest
          return (name :: names, rest)
      | rest => return ([name], rest)

/-- A key, and the blanks around it. -/
def readKey (limits : Limits) (input : List Char) : Option (DottedKey × List Char) := do
  let (names, rest) ← readNames limits.names input
  let name ← names.getLast?
  return (⟨names.dropLast, name⟩, rest)

/-- A value that holds no other values. -/
def readScalar (limits : Limits) : List Char → Option (Value × List Char)
  | 't' :: 'r' :: 'u' :: 'e' :: rest => some (.boolean true, rest)
  | 'f' :: 'a' :: 'l' :: 's' :: 'e' :: rest => some (.boolean false, rest)
  | input =>
      match input.head? with
      | some '\x22' | some '\x27' => do
          let (text, rest) ← Quoted.read input
          return (.string (String.ofList text), rest)
      | _ => if DateTime.begins input then DateTime.read input else Number.read limits input

section Nested

variable (limits : Limits) (readValue : List Char → Option (Value × List Char))

/-- The values of a list up to its closing bracket, so many at most. -/
def readItems : (limit : Nat) → List Char → Option (List Value × List Char)
  | 0, _ => none
  | limit + 1, input => do
      match ← skipFiller false input with
      | ']' :: rest => return ([], rest)
      | input => do
          let (value, rest) ← readValue input
          match ← skipFiller false rest with
          | ',' :: rest => do
              let (values, rest) ← readItems limit rest
              return (value :: values, rest)
          | ']' :: rest => return ([value], rest)
          | _ => none

/-- A key with its value, and the blanks behind it. -/
def readAssignment (input : List Char) : Option ((DottedKey × Value) × List Char) := do
  let (key, rest) ← readKey limits input
  let rest ← DateTime.expect (· == '=') rest
  let (value, rest) ← readValue (skipBlanks rest)
  return ((key, value), skipBlanks rest)

/-- The keys of an inline table up to its closing brace, so many at most. -/
def readAssignments :
    (limit : Nat) → List Char → Option (List (DottedKey × Value) × List Char)
  | 0, _ => none
  | limit + 1, input => do
      let (first, rest) ← readAssignment limits readValue input
      match rest with
      | ',' :: rest => do
          let (more, rest) ← readAssignments limit rest
          return (first :: more, rest)
      | '\x7d' :: rest => return ([first], rest)
      | _ => none

def readInline (input : List Char) : Option (Value × List Char) := do
  match skipBlanks input with
  | '\x7d' :: rest => return (.table .inline [], rest)
  | input => do
      let (assignments, rest) ← readAssignments limits readValue input.length input
      let table ← assignments.foldlM
        (fun table (key, value) => table.define key.path key.name value) ({} : Table)
      return (.table .inline table.entries, rest)

end Nested

section Documents

variable (limits : Limits)

/-- A value in which others stand so deep at most. -/
def readValue : (depth : Nat) → List Char → Option (Value × List Char)
  | depth + 1, '[' :: rest => do
      let (values, rest) ← readItems (readValue depth) (rest.length + 1) rest
      return (.array values, rest)
  | depth + 1, '\x7b' :: rest => readInline limits (readValue depth) rest
  | _, input => readScalar limits input

/-- A header or an assignment, without the rest of its line. -/
def readItem : List Char → Option (Item × List Char)
  | '[' :: '[' :: rest => do
      let (key, rest) ← readKey limits rest
      match rest with
      | ']' :: ']' :: rest => return (.elementHeader key, rest)
      | _ => none
  | '[' :: rest => do
      let (key, rest) ← readKey limits rest
      match rest with
      | ']' :: rest => return (.header key, rest)
      | _ => none
  | input => do
      let ((key, value), rest) ← readAssignment limits (readValue limits limits.depth) input
      return (.assignment key value, rest)

/-- The lines of a document, so many at most. -/
def readLines : (limit : Nat) → List Char → Option (List Item)
  | 0, _ => none
  | limit + 1, input =>
      match skipComment (skipBlanks input) with
      | [] => some []
      | start =>
          match lineEnd? start with
          | some rest => readLines limit rest
          | none => do
              let (item, rest) ← readItem limits (skipBlanks input)
              let items ← readLines limit (← finishLine rest)
              return item :: items

end Documents

/-- A mark of the encoding in front of a document does not count. -/
def skipByteOrderMark : List Char → List Char
  | '\uFEFF' :: rest => rest
  | input => input

/-- The keys of a document that keeps to the limits, none if the text is not well formed, defines
something twice or goes beyond them. -/
def parseWithin? (limits : Limits) (text : String) : Option Entries := do
  let input := skipByteOrderMark text.toList
  let items ← readLines limits (input.length + 1) input
  let draft ← ({} : Draft).addAll items
  return draft.root.entries

def parse? (text : String) : Option Entries :=
  parseWithin? .standard text

end BaudSwitch.Toml
