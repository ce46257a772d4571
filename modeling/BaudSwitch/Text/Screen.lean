import BaudSwitch.Hex

/-!
# Texts on a screen

Some control characters steer a terminal: they move its cursor, colour it or ring its bell.  A
text that may come from anywhere is shown with these characters spelled as numbers.
-/

namespace BaudSwitch.Screen

/-- A control character above ASCII. -/
def isHighControl (character : Char) : Bool :=
  '\u0080' ≤ character && character ≤ '\u009f'

/-- A control character of ASCII that steers: alert, backspace, form feed, escape and delete.
Tabs, returns and newlines lay a text out and are none of them. -/
def isLowControl (character : Char) : Bool :=
  character == '\x07' || character == '\x08' || character == '\x0c' || character == '\x1b' ||
    character == '\x7f'

/-- The number of a control character, in two digits. -/
def digits (character : Char) : List Char :=
  (Hex.text (Hex.padded 2 character.toNat)).toList

def char (character : Char) : List Char :=
  if isLowControl character then '\\' :: 'x' :: digits character
  else if isHighControl character then '\\' :: 'u' :: '\x7b' :: digits character ++ ['\x7d']
  else [character]

def text (text : String) : String :=
  String.ofList (text.toList.flatMap char)

end BaudSwitch.Screen
