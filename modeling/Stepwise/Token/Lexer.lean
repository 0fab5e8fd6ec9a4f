import Stepwise.Token
import Stepwise.Text.Blank
import Stepwise.Text.Lines

/-!
# From text to tokens

Each line is read on its own, from left to right, and every character either extends the token
that is being read or starts a new one. Word characters extend words; beyond those only the
eight pairs `<=`, `>=`, `==`, `!=`, `&&`, `||`, `<<` and `>>` hold together. A blank is a token of
its own until the end, where such tokens are left out.
-/

namespace Stepwise.Token

/-- Whether `next` extends a token whose characters so far are `read`, last one first. -/
def continues (read : List Char) (next : Char) : Bool :=
  match read with
  | [] => false
  | last :: before =>
    (isWordChar last && isWordChar next) ||
      (before.isEmpty &&
        ((next == '=' && (last == '<' || last == '>' || last == '=' || last == '!')) ||
          (next == last && (last == '&' || last == '|' || last == '<' || last == '>'))))

/-- Puts a token in front of others, unless it is blank; its characters come last one first. -/
def emit (line column : Nat) (read : List Char) (rest : List Token) : List Token :=
  if Text.isBlankText read then rest
  else ⟨String.ofList read.reverse, ⟨line, column⟩⟩ :: rest

/-- The tokens of a line of which `read` has been read, last character first, since the column
`start`; the characters still to come begin at the column `column`. -/
def lexFrom (line start column : Nat) (read : List Char) : List Char → List Token
  | [] => emit line start read []
  | c :: cs =>
    if continues read c then lexFrom line start (column + 1) (c :: read) cs
    else emit line start read (lexFrom line column (column + 1) [c] cs)

/-- The tokens of one line. -/
def lexLine (line : Nat) (cs : List Char) : List Token :=
  lexFrom line 1 1 [] cs

/-- The tokens of numbered lines. -/
def lexLines (numbered : List (Nat × List Char)) : List Token :=
  numbered.flatMap fun line => lexLine line.1 line.2

/-- The tokens of a text. -/
def lex (text : String) : List Token :=
  lexLines (Text.numberedLines text)

end Stepwise.Token
