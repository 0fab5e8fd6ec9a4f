import Stepwise.Location
import Stepwise.Text.Numeral

/-!
# Tokens

A token is a piece of program text together with the place where it starts. Tokens carry no
kind: whatever reads them looks at their text.
-/

namespace Stepwise

/-- A lexeme and where it starts. -/
structure Token where
  /-- The characters of the lexeme. -/
  text : String
  /-- The place of its first character. -/
  loc : Location
deriving DecidableEq, Repr, Inhabited

namespace Token

/-- Whether a character may stand in a word: an ASCII letter, a digit or an underscore. -/
def isWordChar (c : Char) : Bool :=
  Text.isDigit c || ('a' ≤ c && c ≤ 'z') || ('A' ≤ c && c ≤ 'Z') || c == '_'

/-- Whether the token is a word: a name, a keyword or a numeral. -/
def isWord (t : Token) : Bool :=
  !t.text.toList.isEmpty && t.text.toList.all isWordChar

/-- Whether the token starts like a numeral. -/
def isNumeral (t : Token) : Bool :=
  match t.text.toList with
  | [] => false
  | c :: _ => Text.isDigit c

/-- Whether the token can name a variable or a function: a word that is no numeral. -/
def isName (t : Token) : Bool :=
  t.isWord && !t.isNumeral

/-- The token between single quotes, as messages show it. -/
def quoted (t : Token) : String :=
  s!"'{t.text}'"

end Token

end Stepwise
