import BaudSwitch.Toml.Number

/-!
# Dates and times

A date, a time, or both with a letter or a space between them; only both together may have an
offset.  Every part must exist in the calendar and on the clock, where a minute may have a
second more.
-/

namespace BaudSwitch.Toml.DateTime

open Number (isDigit)

/-- A number of exactly so many digits, within bounds. -/
def field (width low high : Nat) (input : List Char) : Option (Nat × List Char) :=
  let spelled := input.take width
  let number := Number.ofDigits 10 spelled
  if spelled.length = width ∧ spelled.all isDigit ∧ low ≤ number ∧ number ≤ high then
    some (number, input.drop width)
  else none

/-- A character that must come next. -/
def expect (accepts : Char → Bool) : List Char → Option (List Char)
  | character :: rest => if accepts character then some rest else none
  | [] => none

def daysInMonth (year month : Nat) : Nat :=
  if month = 2 then
    if year % 4 = 0 ∧ (year % 100 ≠ 0 ∨ year % 400 = 0) then 29 else 28
  else if month = 4 ∨ month = 6 ∨ month = 9 ∨ month = 11 then 30
  else 31

def date (input : List Char) : Option (List Char) := do
  let (year, input) ← field 4 0 9999 input
  let input ← expect (· == '-') input
  let (month, input) ← field 2 1 12 input
  let input ← expect (· == '-') input
  let (_, input) ← field 2 1 (daysInMonth year month) input
  return input

/-- A fraction of a second, if there is one. -/
def secondFraction : List Char → List Char
  | '.' :: digit :: rest => if isDigit digit then rest.dropWhile isDigit else '.' :: digit :: rest
  | input => input

def time (input : List Char) : Option (List Char) := do
  let (_, input) ← field 2 0 23 input
  let input ← expect (· == ':') input
  let (_, input) ← field 2 0 59 input
  let input ← expect (· == ':') input
  let (_, input) ← field 2 0 60 input
  return secondFraction input

/-- A distance from universal time, if there is one. -/
def offset : List Char → Option (List Char)
  | [] => some []
  | mark :: rest =>
      if mark = 'Z' ∨ mark = 'z' then some rest
      else if mark = '+' ∨ mark = '-' then do
        let (_, rest) ← field 2 0 23 rest
        let rest ← expect (· == ':') rest
        let (_, rest) ← field 2 0 59 rest
        return rest
      else some (mark :: rest)

/-- A time after its date. What does not begin a time is left alone. -/
def timeAfterDate : List Char → Option (List Char)
  | mark :: rest =>
      if mark = 'T' ∨ mark = 't' ∨ mark = ' ' then
        match field 2 0 23 rest with
        | some (_, ':' :: _) => time rest >>= offset
        | _ => some (mark :: rest)
      else some (mark :: rest)
  | [] => some []

/-- Whether an input begins like a date or a time, and not like a number. -/
def begins (input : List Char) : Bool :=
  ((field 4 0 9999 input).any fun (_, rest) => rest.head? = some '-') ||
    ((field 2 0 99 input).any fun (_, rest) => rest.head? = some ':')

def read (input : List Char) : Option (Value × List Char) := do
  let rest ←
    match field 4 0 9999 input with
    | some _ => date input >>= timeAfterDate
    | none => time input
  return (.dateTime (Number.consumed input rest), rest)

end BaudSwitch.Toml.DateTime
