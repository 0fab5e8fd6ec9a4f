import Stepwise.Grammar.Statement
import Stepwise.Syntax.Program

/-!
# Loading programs

A program is a list of declarations and functions, each of which starts with the one type there
is. No two functions may share a name.
-/

namespace Stepwise

open Expression (Reading)

/-- What became of loading a program. -/
structure Loading where
  /-- The functions that were read, in order; one whose name was taken comes last. -/
  read : List Routine
  /-- The program, or what is wrong with the text. -/
  outcome : Reading Program

namespace Loading

/-- The place of faults at the end of all tokens: the last token, or the start of the text. -/
def endOf (ts : List Token) : Location :=
  match ts.getLast? with
  | some t => t.loc
  | none => Location.start

/-- The pieces between commas, which are never inside brackets here. -/
def pieces : List Token → List (List Token)
  | [] => [[]]
  | t :: ts => if t.text = "," then [] :: pieces ts else Extent.consFirst t (pieces ts)

/-- Reads a parameter of the function `routine`; a missing one is reported at `loc`. -/
def parameter (routine : String) (loc : Location) : List Token → Reading String
  | [] => .error ⟨.badParameter routine, loc⟩
  | [type, name] =>
    if type.text = "int" then Declaration.name name
    else .error ⟨.badParameter routine, type.loc⟩
  | t :: _ => .error ⟨.badParameter routine, t.loc⟩

/-- Reads parameters one after the other. -/
def parameters (routine : String) (loc : Location) : List (List Token) → Reading (List String)
  | [] => .ok []
  | piece :: pieces => do
    let name ← parameter routine loc piece
    let names ← parameters routine loc pieces
    return name :: names

/-- Finds the braces around the body of the function `routine`. -/
def bodyOf (whole : Location) (routine : String) (ts : List Token) : Reading Enclosed :=
  match ts with
  | [] => .error ⟨.missingBody routine, whole⟩
  | t :: rest =>
    if t.text = "\x7b" then Extent.enclosed whole .brace (t :: rest)
    else .error ⟨.missingBody routine, t.loc⟩

/-- Reads the parameters between the parentheses of the function `name`. -/
def paramsOf (name : String) (parens : Enclosed) : Reading (List String) :=
  if parens.inside.isEmpty then .ok []
  else parameters name parens.closer.loc (pieces parens.inside)

/-- Reads the function whose name is `first` and whose parameters begin the tokens; gives it and
the tokens after it. -/
def routine (whole : Location) (first : Token) (ts : List Token) :
    Reading (Routine × List Token) := do
  let name ← Declaration.name first
  let parens ← Extent.enclosed whole .paren ts
  let params ← paramsOf name parens
  let braces ← bodyOf whole name parens.after
  let body ← Statement.readAll whole braces.inside
  return (⟨name, params, .sequence body, first.loc⟩, braces.after)

/-- The name of a function and the tokens from its first parenthesis on, if the tokens after a
type go on like that. -/
def routineStart? : List Token → Option (Token × List Token)
  | first :: t :: ts => if t.text = "(" then some (first, t :: ts) else none
  | _ => none

/-- Loads at most `bound` items into a program. -/
def loadWithin (whole : Location) : Nat → Program → List Token → Loading
  | _, program, [] => ⟨[], .ok program⟩
  | 0, _, t :: _ => ⟨[], .error ⟨.badItem t.text, t.loc⟩⟩
  | bound + 1, program, t :: ts =>
    if t.text = "int" then
      match routineStart? ts with
      | some (first, ts) =>
        match routine whole first ts with
        | .error fault => ⟨[], .error fault⟩
        | .ok (routine, rest) =>
          if (program.find? routine.name).isSome then
            ⟨[routine], .error ⟨.duplicate routine.name, routine.loc⟩⟩
          else
            let later := loadWithin whole bound (program.define routine) rest
            ⟨routine :: later.read, later.outcome⟩
      | none =>
        match Declaration.read whole t.loc ts with
        | .error fault => ⟨[], .error fault⟩
        | .ok (nodes, rest) => loadWithin whole bound (program.addGlobals nodes) rest
    else ⟨[], .error ⟨.badItem t.text, t.loc⟩⟩

/-- Loads the program of these tokens. Every item takes a token at least, so there are no more
items than tokens. -/
def load (ts : List Token) : Loading :=
  loadWithin (endOf ts) ts.length {} ts

end Loading

/-- The program of these tokens. -/
def Program.ofTokens (ts : List Token) : Reading Program :=
  (Loading.load ts).outcome

/-- The program of this text, its opening lines included. -/
def Program.ofText (text : String) : Reading Program :=
  match Token.lexProgram text with
  | .error missing => .error ⟨.opening missing, missing.loc⟩
  | .ok ts => Program.ofTokens ts

end Stepwise
