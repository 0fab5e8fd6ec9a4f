import Stepwise.Machine.Arithmetic
import Stepwise.Machine.State

/-!
# Evaluation

Expressions and statements are evaluated along the tree. What a call does is a parameter, `enter`,
of the evaluation of expressions, and how many rounds a loop may begin is a parameter, `budget`,
of the evaluation of statements; both are tied together by `activate`, whose budget falls with
every call. Each round and each call counts a step, so that a limit on steps is a sufficient
budget, and between two steps evaluation only goes down the tree.
-/

namespace Stepwise

/-- What entering a function does, given its arguments and the place of the call. -/
abbrev Enter := Routine → List Int32 → Location → Exec Int32

namespace Machine

open Exec

/-- The name of the function that prints a byte. -/
def putchar : String := "putchar"

/-- The name of the function that runs first. -/
def mainName : String := "main"

/-- Fails because a statement stands where a value is needed. -/
def refuse (node : Node) : Exec Int32 := do
  let m ← get
  fail (.statementAsValue node.label (node.loc?.getD m.loc))

/-! ## Expressions -/

mutual

/-- The value of an expression. -/
def eval (ctx : Context) (enter : Enter) : Node → Exec Int32
  | .empty => return 0
  | .endl _ => return 0
  | .literal value _ => return value
  | .var ref => do
    let key ← slot ctx enter ref
    load key
  | .assignment target value _ => do
    let value ← eval ctx enter value
    let key ← slot ctx enter target
    save key value
    return value
  | .unary op operand _ => do
    let value ← eval ctx enter operand
    return op.apply value
  | .binary op left right loc => do
    let x ← eval ctx enter left
    let y ← eval ctx enter right
    match op.apply? x y with
    | some value => return value
    | none => fail (.divisionByZero loc)
  | .call callee args loc =>
    if callee = putchar then
      match args with
      | [arg] => do
        let value ← eval ctx enter arg
        print (·.putByte (lowByte value))
        return value
      | _ => fail (.argumentCount putchar 1 args.length loc)
    else
      match ctx.program.find? callee with
      | none => fail (.undefinedRoutine callee loc)
      | some routine =>
        if routine.params.length = args.length then do
          let values ← evalAll ctx enter args
          enter routine values loc
        else fail (.argumentCount callee routine.params.length args.length loc)
  | .input targets loc => do
    readAll ctx enter loc targets
    return 0
  | .output items _ => do
    printAll ctx enter items
    return 0
  | .sequence statements => refuse (.sequence statements)
  | .declaration name loc => refuse (.declaration name loc)
  | .ifElse condition thenBranch elseBranch loc =>
    refuse (.ifElse condition thenBranch elseBranch loc)
  | .whileLoop condition body loc => refuse (.whileLoop condition body loc)
  | .forLoop init condition step body loc => refuse (.forLoop init condition step body loc)
  | .giveBack value loc => refuse (.giveBack value loc)
  | .block body loc => refuse (.block body loc)

/-- The values of expressions, from left to right. -/
def evalAll (ctx : Context) (enter : Enter) : List Node → Exec (List Int32)
  | [] => return []
  | node :: nodes => do
    let value ← eval ctx enter node
    let values ← evalAll ctx enter nodes
    return value :: values

/-- The key of a variable, its indices being evaluated from left to right. -/
def slot (ctx : Context) (enter : Enter) : Reference Node → Exec String
  | ⟨name, indices, _⟩ => do
    let indices ← evalAll ctx enter indices
    return Slot.key name indices

/-- Reads an integer into each variable, from left to right. -/
def readAll (ctx : Context) (enter : Enter) (loc : Location) : List (Reference Node) → Exec Unit
  | [] => return
  | target :: targets => do
    let key ← slot ctx enter target
    let value ← next loc
    save key value
    readAll ctx enter loc targets

/-- Prints each item, from left to right. -/
def printAll (ctx : Context) (enter : Enter) : List Node → Exec Unit
  | [] => return
  | .endl _ :: items => do
    print Output.newline
    printAll ctx enter items
  | item :: items => do
    let value ← eval ctx enter item
    print (·.putInt value)
    printAll ctx enter items

end

/-! ## Statements -/

/-- Runs rounds of a loop for as long as its condition holds: the body and then the step. At most
`budget` rounds can be begun. -/
def rounds (ctx : Context) (condition : Exec Bool) (body : Exec Flow) (step : Exec Unit) :
    Nat → Exec Flow
  | 0 => do
    if ← condition then
      tick ctx
      throw .outOfBudget
    else return .normal
  | budget + 1 => do
    if ← condition then
      tick ctx
      match ← body with
      | .returned value => return .returned value
      | .normal =>
        step
        rounds ctx condition body step budget
    else return .normal

/-- Whether the condition of a loop or a branch holds. -/
def holds (ctx : Context) (enter : Enter) (condition : Node) : Exec Bool := do
  let value ← eval ctx enter condition
  return value != 0

/-- Whether a for loop goes on; a condition that is left out always holds. -/
def goesOn (ctx : Context) (enter : Enter) (condition : Node) : Exec Bool :=
  if condition.isEmpty then return true else holds ctx enter condition

mutual

/-- Runs a statement. -/
def exec (ctx : Context) (enter : Enter) (budget : Nat) : Node → Exec Flow
  | .sequence statements => execAll ctx enter budget statements
  | .declaration name loc => do
    arrive ctx (.declaration name loc)
    note (.declared name (← get).scope)
    declare name
    return .normal
  | .ifElse condition thenBranch elseBranch loc => do
    arrive ctx (.ifElse condition thenBranch elseBranch loc)
    if ← holds ctx enter condition then exec ctx enter budget thenBranch
    else execElse ctx enter budget elseBranch
  | .whileLoop condition body loc => do
    arrive ctx (.whileLoop condition body loc)
    rounds ctx (holds ctx enter condition) (exec ctx enter budget body) (return) budget
  | .forLoop init condition step body loc => do
    arrive ctx (.forLoop init condition step body loc)
    match ← exec ctx enter budget init with
    | .returned value => return .returned value
    | .normal =>
      rounds ctx (goesOn ctx enter condition) (exec ctx enter budget body)
        (do let _ ← eval ctx enter step) budget
  | .block body loc => do
    arrive ctx (.block body loc)
    inScope (exec ctx enter budget body)
  | .giveBack value loc => do
    arrive ctx (.giveBack value loc)
    let value ← eval ctx enter value
    return .returned value
  | node => do
    arrive ctx node
    let _ ← eval ctx enter node
    return .normal

/-- Runs statements until one of them ends the function. -/
def execAll (ctx : Context) (enter : Enter) (budget : Nat) : List Node → Exec Flow
  | [] => return .normal
  | node :: nodes => do
    match ← exec ctx enter budget node with
    | .normal => execAll ctx enter budget nodes
    | .returned value => return .returned value

/-- Runs the other branch, if there is one. -/
def execElse (ctx : Context) (enter : Enter) (budget : Nat) : Option Node → Exec Flow
  | none => return .normal
  | some node => exec ctx enter budget node

end

/-! ## Calls -/

/-- Gives each parameter its value in the current scope. -/
def bindParams : List String → List Int32 → Exec Unit
  | param :: params, value :: values => do
    declare param
    save param value
    bindParams params values
  | _, _ => return

/-- Enters a function: refuses to nest too deeply, counts a step, and runs the body in a scope
inside the caller's. -/
def activate (ctx : Context) : Nat → Enter
  | budget, routine, args, loc => do
    let depth := (← get).callDepth
    if ctx.limits.maxDepth < depth then fail (.callDepth ctx.limits.maxDepth loc)
    tick ctx
    match budget with
    | 0 => throw .outOfBudget
    | budget + 1 =>
      note (.called routine.name args (depth + 1))
      let flow ← inCall routine.name <| inScope do
        bindParams routine.params args
        exec ctx (activate ctx budget) budget routine.body
      return flow.value

end Machine

end Stepwise
