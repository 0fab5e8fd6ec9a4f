import Stepwise.Text.Extender
import Stepwise.Text.Printable

/-!
# Quoted text

How a message shows a piece of the input: between double quotes, with a backslash form for
quotes, backslashes and the common control characters, and with the code point in hexadecimal
for every other character that could not be seen on its own.
-/

namespace Stepwise.Text

/-- A code point between braces, in lower-case hexadecimal without padding. -/
def codePointForm (c : Char) : List Char :=
  ['\\', 'u', '\x7b'] ++ Nat.toDigits 16 c.toNat ++ ['\x7d']

/-- Whether a character has no form that could be seen between quotes: marks that would be drawn on
what stands before them, except the half-width voiced sound marks, and all that has no visible
form. -/
def isUnseen (c : Char) : Bool :=
  isExtender c && c.toNat != 0xff9e && c.toNat != 0xff9f || !isPrintable c

/-- A character as it stands between quotes. -/
def quotedChar (c : Char) : List Char :=
  if c = '\x00' then ['\\', '0']
  else if c = '\t' then ['\\', 't']
  else if c = '\r' then ['\\', 'r']
  else if c = '\n' then ['\\', 'n']
  else if c = '\\' then ['\\', '\\']
  else if c = '"' then ['\\', '"']
  else if isUnseen c then codePointForm c
  else [c]

/-- A text between quotes. -/
def quoted (s : String) : String :=
  "\"" ++ String.ofList (s.toList.flatMap quotedChar) ++ "\""

/-- A text that may be missing. -/
def quotedOption : Option String → String
  | none => "None"
  | some s => s!"Some({quoted s})"

end Stepwise.Text
