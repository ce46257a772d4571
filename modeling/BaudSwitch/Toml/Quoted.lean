/-!
# Quoted text

Text stands between quotation marks, where a backslash introduces an escape, or between
apostrophes, where every character stands for itself.  Three marks make a block, which may hold
line ends; a line end right after the opening marks does not count.  A reader takes what follows
the opening marks and hands over the text and the rest.
-/

namespace BaudSwitch.Toml

def isBlank (character : Char) : Bool :=
  character == ' ' || character == '\t'

/-- A character that may stand in a comment, and between apostrophes unless it is one. -/
def isPlain (character : Char) : Bool :=
  character == '\t' || (' ' ≤ character && character ≠ '\x7f')

/-- The number that a hexadecimal digit stands for, in either case. -/
def hexValue? (character : Char) : Option Nat :=
  if '0' ≤ character ∧ character ≤ '9' then some (character.toNat - 48)
  else if 'a' ≤ character ∧ character ≤ 'f' then some (character.toNat - 87)
  else if 'A' ≤ character ∧ character ≤ 'F' then some (character.toNat - 55)
  else none

/-- The character with a number, unless the number is a surrogate or too large. -/
def scalar? (number : Nat) : Option Char :=
  if number.isValidChar then some (Char.ofNat number) else none

namespace Quoted

/-- What remains of a text, and what comes after it. -/
abbrev Reader := List Char → Option (List Char × List Char)

def cons (character : Char) (read : Option (List Char × List Char)) :
    Option (List Char × List Char) :=
  read.map fun (text, rest) => (character :: text, rest)

/-- The closing marks of a block have been read; up to two more marks still belong to it. -/
def closing (mark : Char) : List Char → List Char × List Char
  | first :: second :: rest =>
      if first = mark ∧ second = mark then ([mark, mark], rest)
      else if first = mark then ([mark], second :: rest)
      else ([], first :: second :: rest)
  | [first] => if first = mark then ([mark], []) else ([], [first])
  | [] => ([], [])

/-- Where a reader of escapes stands. -/
inductive State where
  /-- Between characters; after a folded line end, blanks and line ends are skipped. -/
  | text (folding : Bool)
  | escape
  /-- After a backslash and blanks, which only a line end can follow. -/
  | fold
  /-- Inside a number of which one digit more than this is still to come. -/
  | code (more number : Nat)
  deriving DecidableEq, Repr

/-- The character that a letter stands for after a backslash. -/
def named? (letter : Char) : Option Char :=
  if letter = 'b' then some '\x08'
  else if letter = 't' then some '\t'
  else if letter = 'n' then some '\n'
  else if letter = 'f' then some '\x0c'
  else if letter = 'r' then some '\r'
  else if letter = '\x22' then some '\x22'
  else if letter = '\\' then some '\\'
  else none

/-- Read text between quotation marks, a block or not. -/
def readBasic (block : Bool) : State → Reader
  | .text _, '\x22' :: rest =>
      if block then
        match rest with
        | '\x22' :: '\x22' :: after => some (closing '\x22' after)
        | _ => cons '\x22' (readBasic block (.text false) rest)
      else some ([], rest)
  | .text _, '\\' :: rest => readBasic block .escape rest
  | .text folding, '\n' :: rest =>
      if folding then readBasic block (.text true) rest
      else if block then cons '\n' (readBasic block (.text false) rest)
      else none
  | .text folding, '\r' :: '\n' :: rest =>
      if folding then readBasic block (.text true) rest
      else if block then cons '\n' (readBasic block (.text false) rest)
      else none
  | .text folding, character :: rest =>
      if folding && isBlank character then readBasic block (.text true) rest
      else if isPlain character then cons character (readBasic block (.text false) rest)
      else none
  | .escape, '\n' :: rest => if block then readBasic block (.text true) rest else none
  | .escape, '\r' :: '\n' :: rest => if block then readBasic block (.text true) rest else none
  | .escape, character :: rest =>
      if character = 'u' then readBasic block (.code 3 0) rest
      else if character = 'U' then readBasic block (.code 7 0) rest
      else if isBlank character then if block then readBasic block .fold rest else none
      else
        match named? character with
        | some meant => cons meant (readBasic block (.text false) rest)
        | none => none
  | .fold, '\n' :: rest => readBasic block (.text true) rest
  | .fold, '\r' :: '\n' :: rest => readBasic block (.text true) rest
  | .fold, character :: rest => if isBlank character then readBasic block .fold rest else none
  | .code more number, character :: rest =>
      match hexValue? character with
      | none => none
      | some digit =>
          match more with
          | 0 =>
              match scalar? (number * 16 + digit) with
              | some meant => cons meant (readBasic block (.text false) rest)
              | none => none
          | more + 1 => readBasic block (.code more (number * 16 + digit)) rest
  | _, [] => none

/-- Read text between apostrophes, a block or not. -/
def readLiteral (block : Bool) : Reader
  | '\x27' :: rest =>
      if block then
        match rest with
        | '\x27' :: '\x27' :: after => some (closing '\x27' after)
        | _ => cons '\x27' (readLiteral block rest)
      else some ([], rest)
  | '\n' :: rest => if block then cons '\n' (readLiteral block rest) else none
  | '\r' :: '\n' :: rest => if block then cons '\n' (readLiteral block rest) else none
  | character :: rest =>
      if isPlain character then cons character (readLiteral block rest) else none
  | [] => none

/-- Skip the line end right after the opening marks of a block. -/
def skipFirstLine : List Char → List Char
  | '\n' :: rest => rest
  | '\r' :: '\n' :: rest => rest
  | input => input

def read : Reader
  | '\x22' :: '\x22' :: '\x22' :: rest => readBasic true (.text false) (skipFirstLine rest)
  | '\x22' :: rest => readBasic false (.text false) rest
  | '\x27' :: '\x27' :: '\x27' :: rest => readLiteral true (skipFirstLine rest)
  | '\x27' :: rest => readLiteral false rest
  | _ => none

/-- Read quoted text that keeps to one line, as in a key. -/
def readLine : Reader
  | '\x22' :: rest => readBasic false (.text false) rest
  | '\x27' :: rest => readLiteral false rest
  | _ => none

end Quoted

end BaudSwitch.Toml
