/-!
# Values of a settings file

A document is a table: keys with their values, in the order they were given.  A reader follows it
within limits.
-/

namespace BaudSwitch.Toml

/-- How a table came to be, which decides who may add to it. -/
inductive Origin where
  /-- It has a header of its own, or is the document itself. -/
  | header
  /-- It only stands on the way to the table of some header. -/
  | implied
  /-- It stands on the way of a dotted key. -/
  | dotted
  /-- It was written between braces, and is complete. -/
  | inline
  deriving DecidableEq, Repr

/-- Whole numbers have 64 bits: they lie below this bound, and not below its opposite. -/
def numberBound : Nat :=
  0x8000000000000000

/-- How far a reader follows a document. -/
structure Limits where
  /-- Lists and inline tables stand in each other at most this deep. -/
  depth : Nat
  /-- A dotted key has at most this many names. -/
  names : Nat
  /-- Whole numbers lie below this bound, and not below its opposite. -/
  number : Nat
  /-- Whether a number above zero may be so large that it rounds to infinity. -/
  infinite : Bool
  deriving DecidableEq, Repr

/-- The limits within which documents are read. -/
def Limits.standard : Limits where
  depth := 79
  names := 79
  number := numberBound
  infinite := false

/-- A value. Numbers with a fraction and dates are kept as they were written. -/
inductive Value where
  | string (text : String)
  | integer (number : Int)
  | float (literal : String)
  | dateTime (literal : String)
  | boolean (flag : Bool)
  | array (items : List Value)
  | table (origin : Origin) (entries : List (String × Value))
  /-- The tables of headers in double brackets. -/
  | tables (elements : List (List (String × Value)))
  deriving Repr

abbrev Entries := List (String × Value)

namespace Entries

def find? (entries : Entries) (key : String) : Option Value :=
  entries.lookup key

/-- Give a key a value, in its place if it has one, else at the end. -/
def put : Entries → String → Value → Entries
  | [], key, value => [(key, value)]
  | (first, old) :: rest, key, value =>
      if first = key then (key, value) :: rest else (first, old) :: put rest key value

end Entries

end BaudSwitch.Toml
