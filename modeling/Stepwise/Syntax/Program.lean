import Stepwise.Syntax.Node

/-!
# Programs

A program has functions, which are found by name, and declarations that run before its main
function does.
-/

namespace Stepwise

/-- A function of a program: its name, its parameters and its body. -/
structure Routine where
  /-- The name it is called by. -/
  name : String
  /-- The names of its parameters, in order. -/
  params : List String
  /-- What runs when it is called. -/
  body : Node
  /-- The place of its name. -/
  loc : Location
deriving Repr, Inhabited

/-- Functions with different names, in the order of their definition, and the declarations that
run first. -/
structure Program where
  /-- The functions, no two of one name. -/
  routines : List Routine := []
  /-- The declarations and initial assignments outside functions. -/
  globals : List Node := []
deriving Repr, Inhabited

namespace Program

/-- The function of a name. -/
def find? (p : Program) (name : String) : Option Routine :=
  p.routines.find? fun r => r.name == name

/-- Adds a function; one that has its name already gives way. -/
def define (p : Program) (routine : Routine) : Program :=
  { p with routines := p.routines.filter (fun r => r.name != routine.name) ++ [routine] }

/-- Adds nodes that run before the main function, after those already there. -/
def addGlobals (p : Program) (nodes : List Node) : Program :=
  { p with globals := p.globals ++ nodes }

/-- The program of these functions and globals; of two functions with one name the later one
counts. -/
def ofParts (routines : List Routine) (globals : List Node) : Program :=
  routines.foldl define ⟨[], globals⟩

/-- The functions in the order of their names. -/
def routinesByName (p : Program) : List Routine :=
  p.routines.mergeSort fun r s => r.name ≤ s.name

end Program

end Stepwise
