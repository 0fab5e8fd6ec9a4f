import Stepwise.Token.Lexer
import Stepwise.Text.Quoted

/-!
# The opening of a program

A program opens with three fixed lines. Blank lines may stand between them, and blanks at the
end of a line do not count; the tokens of a program are those of the lines that follow.
-/

namespace Stepwise

/-- Why a text does not open as a program has to. -/
structure MissingOpening where
  /-- The line that was due. -/
  expected : String
  /-- The line found in its place, unless the text had ended. -/
  found : Option String
  /-- The number of the line found, or the first number past the text. -/
  line : Nat
deriving DecidableEq, Repr

namespace MissingOpening

/-- The text of the error. -/
def message (e : MissingOpening) : String :=
  s!"Missing prologue line {Text.quoted e.expected} at line {e.line} " ++
    s!"(found {Text.quotedOption e.found})"

/-- The error is placed at the start of its line. -/
def loc (e : MissingOpening) : Location :=
  ⟨e.line, 1⟩

end MissingOpening

namespace Token

/-- The lines that open every program, in order. -/
def openingLines : List String :=
  ["#include<iostream>", "#include<cstdio>", "using namespace std;"]

/-- Takes the lines `expected` off the front of a text of `total` lines, passing over blank
lines before each. -/
def dropOpening (total : Nat) :
    List String → List (Nat × List Char) → Except MissingOpening (List (Nat × List Char))
  | [], lines => .ok lines
  | expected :: more, lines =>
    match lines.dropWhile fun line => Text.isBlankText line.2 with
    | [] => .error ⟨expected, none, total + 1⟩
    | line :: rest =>
      if Text.trimEnd line.2 = expected.toList then dropOpening total more rest
      else .error ⟨expected, some (String.ofList line.2), line.1⟩

/-- The tokens of a program text, after the lines that open it. -/
def lexProgram (text : String) : Except MissingOpening (List Token) :=
  (dropOpening (Text.lines text).length openingLines (Text.numberedLines text)).map lexLines

end Token

end Stepwise
