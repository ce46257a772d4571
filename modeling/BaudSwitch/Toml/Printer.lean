import BaudSwitch.Toml.Quoted

/-!
# Writing documents

A text is written between the first marks, in a fixed order of preference, that let it stand
without escapes; only a text that no marks suit is escaped.
-/

namespace BaudSwitch.Toml

def longestRun (mark : Char) (text : List Char) : Nat :=
  (text.foldl
    (fun (longest, current) character =>
      let current := if character = mark then current + 1 else 0
      (max longest current, current))
    (0, 0)).1

/-- The marks that a text can stand between. -/
inductive Marks where
  | basic
  | literal
  | basicBlock
  | literalBlock
  deriving DecidableEq, Repr

/-- A control character that can only be written by an escape. -/
def needsEscape (character : Char) : Bool :=
  (character < ' ' && character ≠ '\t' && character ≠ '\n') || character = '\x7f'

def marksFor (text : List Char) : Marks :=
  let quotes := longestRun '\x22' text
  let apostrophes := longestRun '\x27' text
  let escapes := text.any needsEscape
  let backslash := text.contains '\\'
  let newline := text.contains '\n'
  if !escapes && !backslash && quotes = 0 && !newline then .basic
  else if !escapes && apostrophes = 0 && !newline then .literal
  else if !escapes && !backslash && quotes ≤ 2 then .basicBlock
  else if !escapes && apostrophes ≤ 2 then .literalBlock
  else if newline then .basicBlock
  else .basic

def upperDigit (value : Nat) : Char :=
  if value < 10 then Char.ofNat (48 + value) else Char.ofNat (55 + value)

/-- A character between quotation marks, other than the quotation mark. -/
def escapeChar (block : Bool) (character : Char) : List Char :=
  if character = '\x08' then ['\\', 'b']
  else if character = '\t' then ['\\', 't']
  else if character = '\n' then if block then ['\n'] else ['\\', 'n']
  else if character = '\x0c' then ['\\', 'f']
  else if character = '\r' then ['\\', 'r']
  else if character = '\\' then ['\\', '\\']
  else if character < ' ' ∨ character = '\x7f' then
    ['\\', 'u', '0', '0', upperDigit (character.toNat / 16), upperDigit (character.toNat % 16)]
  else [character]

/-- A text between quotation marks. In a block two quotation marks in a row may stand; the
number says how many stand in front. -/
def escapeText (block : Bool) : (quotes : Nat) → List Char → List Char
  | _, [] => []
  | quotes, character :: rest =>
      if character = '\x22' then
        if block && quotes < 2 then '\x22' :: escapeText block (quotes + 1) rest
        else '\\' :: '\x22' :: escapeText block 0 rest
      else escapeChar block character ++ escapeText block 0 rest

/-- A text between its marks. A block that holds a line end begins on a line of its own. -/
def quote (text : List Char) : List Char :=
  let firstLine := if text.contains '\n' then ['\n'] else []
  let basicMark := ['\x22', '\x22', '\x22']
  let literalMark := ['\x27', '\x27', '\x27']
  match marksFor text with
  | .basic => '\x22' :: escapeText false 0 text ++ ['\x22']
  | .literal => '\x27' :: text ++ ['\x27']
  | .basicBlock => basicMark ++ firstLine ++ escapeText true 0 text ++ basicMark
  | .literalBlock => literalMark ++ firstLine ++ text ++ literalMark

/-- A value that can be written. -/
inductive Scalar where
  | text (content : String)
  | number (amount : Nat)
  | flag (on : Bool)
  deriving DecidableEq, Repr

def Scalar.print : Scalar → List Char
  | .text content => quote content.toList
  | .number amount => Nat.toDigits 10 amount
  | .flag on => if on then "true".toList else "false".toList

structure Section where
  name : String
  entries : List (String × Scalar)
  deriving DecidableEq, Repr

def Section.print (table : Section) : List Char :=
  '[' :: table.name.toList ++ ']' :: '\n' ::
    table.entries.flatMap fun (key, value) =>
      key.toList ++ ' ' :: '=' :: ' ' :: value.print ++ ['\n']

/-- Tables one after the other, with an empty line between them. -/
def printSections : List Section → List Char
  | [] => []
  | [last] => last.print
  | first :: rest => first.print ++ '\n' :: printSections rest

end BaudSwitch.Toml
