import Stepwise.Machine.State

/-!
# Relabelings

A program can be given other names and other places and stay the same program otherwise. A relabeling
says how, and this module carries it over from names and places to trees, functions, faults and
events.

The relabeling that changes nothing is among them: runs of one and the same tree are compared through
it.
-/

namespace Stepwise

/-- New names for variables and functions, and new places. -/
structure Relabeling where
  /-- The new name of a variable. -/
  name : String → String
  /-- The new name of a function. -/
  routine : String → String
  /-- The new place. -/
  place : Location → Location

/-- The relabeling that changes nothing. -/
def Relabeling.same : Relabeling :=
  ⟨fun name => name, fun routine => routine, fun loc => loc⟩

/-! ## Section 1: Trees -/

mutual

/-- The tree with its new labels. -/
def Node.relabel (σ : Relabeling) : Node → Node
  | .sequence statements => .sequence (relabelAll σ statements)
  | .empty => .empty
  | .literal value loc => .literal value (σ.place loc)
  | .var ref => .var (relabelRef σ ref)
  | .call callee args loc => .call (σ.routine callee) (relabelAll σ args) (σ.place loc)
  | .unary op operand loc => .unary op (operand.relabel σ) (σ.place loc)
  | .binary op left right loc => .binary op (left.relabel σ) (right.relabel σ) (σ.place loc)
  | .assignment target value loc =>
    .assignment (relabelRef σ target) (value.relabel σ) (σ.place loc)
  | .input targets loc => .input (relabelRefs σ targets) (σ.place loc)
  | .output items loc => .output (relabelAll σ items) (σ.place loc)
  | .endl loc => .endl (σ.place loc)
  | .declaration name loc => .declaration (σ.name name) (σ.place loc)
  | .ifElse condition thenBranch elseBranch loc =>
    .ifElse (condition.relabel σ) (thenBranch.relabel σ) (relabelElse σ elseBranch) (σ.place loc)
  | .whileLoop condition body loc =>
    .whileLoop (condition.relabel σ) (body.relabel σ) (σ.place loc)
  | .forLoop init condition step body loc =>
    .forLoop (init.relabel σ) (condition.relabel σ) (step.relabel σ) (body.relabel σ) (σ.place loc)
  | .giveBack value loc => .giveBack (value.relabel σ) (σ.place loc)
  | .block body loc => .block (body.relabel σ) (σ.place loc)

/-- Each tree of a list with its new labels. -/
def relabelAll (σ : Relabeling) : List Node → List Node
  | [] => []
  | node :: nodes => node.relabel σ :: relabelAll σ nodes

/-- A variable and its indices with their new labels. -/
def relabelRef (σ : Relabeling) : Reference Node → Reference Node
  | ⟨name, indices, loc⟩ => ⟨σ.name name, relabelAll σ indices, σ.place loc⟩

/-- Each variable of a list with its new labels. -/
def relabelRefs (σ : Relabeling) : List (Reference Node) → List (Reference Node)
  | [] => []
  | ref :: refs => relabelRef σ ref :: relabelRefs σ refs

/-- The other branch, if there is one, with its new labels. -/
def relabelElse (σ : Relabeling) : Option Node → Option Node
  | none => none
  | some node => some (node.relabel σ)

end

@[simp] theorem length_relabelAll (σ : Relabeling) (nodes : List Node) :
    (relabelAll σ nodes).length = nodes.length := by
  induction nodes with
  | nil => rfl
  | cons node nodes ih => simp only [relabelAll, List.length_cons, ih]

theorem relabelAll_append (σ : Relabeling) (xs ys : List Node) :
    relabelAll σ (xs ++ ys) = relabelAll σ xs ++ relabelAll σ ys := by
  induction xs with
  | nil => rfl
  | cons node nodes ih => rw [List.cons_append, relabelAll, ih, relabelAll, List.cons_append]

theorem relabelRefs_append (σ : Relabeling) (xs ys : List (Reference Node)) :
    relabelRefs σ (xs ++ ys) = relabelRefs σ xs ++ relabelRefs σ ys := by
  induction xs with
  | nil => rfl
  | cons ref refs ih => rw [List.cons_append, relabelRefs, ih, relabelRefs, List.cons_append]

@[simp] theorem Node.label_relabel (σ : Relabeling) (node : Node) :
    (node.relabel σ).label = node.label := by
  cases node <;> rfl

@[simp] theorem Node.isEmpty_relabel (σ : Relabeling) (node : Node) :
    (node.relabel σ).isEmpty = node.isEmpty := by
  cases node <;> rfl

@[simp] theorem Node.loc?_relabel (σ : Relabeling) (node : Node) :
    (node.relabel σ).loc? = node.loc?.map σ.place := by
  cases node with
  | var ref =>
    cases ref
    rfl
  | _ => rfl

mutual

/-- The tree stays the same if its labels do. -/
theorem Node.relabel_same : ∀ node : Node, node.relabel .same = node
  | .sequence statements => by rw [Node.relabel, relabelAll_same statements]
  | .empty => rfl
  | .literal _ _ => rfl
  | .var ref => by rw [Node.relabel, relabelRef_same ref]
  | .call _ args _ => by rw [Node.relabel, relabelAll_same args]; rfl
  | .unary _ operand _ => by rw [Node.relabel, Node.relabel_same operand]; rfl
  | .binary _ left right _ => by
    rw [Node.relabel, Node.relabel_same left, Node.relabel_same right]; rfl
  | .assignment target value _ => by
    rw [Node.relabel, relabelRef_same target, Node.relabel_same value]; rfl
  | .input targets _ => by rw [Node.relabel, relabelRefs_same targets]; rfl
  | .output items _ => by rw [Node.relabel, relabelAll_same items]; rfl
  | .endl _ => rfl
  | .declaration _ _ => rfl
  | .ifElse condition thenBranch elseBranch _ => by
    rw [Node.relabel, Node.relabel_same condition, Node.relabel_same thenBranch,
      relabelElse_same elseBranch]; rfl
  | .whileLoop condition body _ => by
    rw [Node.relabel, Node.relabel_same condition, Node.relabel_same body]; rfl
  | .forLoop init condition step body _ => by
    rw [Node.relabel, Node.relabel_same init, Node.relabel_same condition, Node.relabel_same step,
      Node.relabel_same body]; rfl
  | .giveBack value _ => by rw [Node.relabel, Node.relabel_same value]; rfl
  | .block body _ => by rw [Node.relabel, Node.relabel_same body]; rfl

theorem relabelAll_same : ∀ nodes : List Node, relabelAll .same nodes = nodes
  | [] => rfl
  | node :: nodes => by rw [relabelAll, Node.relabel_same node, relabelAll_same nodes]

theorem relabelRef_same : ∀ ref : Reference Node, relabelRef .same ref = ref
  | ⟨_, indices, _⟩ => by rw [relabelRef, relabelAll_same indices]; rfl

theorem relabelRefs_same : ∀ refs : List (Reference Node), relabelRefs .same refs = refs
  | [] => rfl
  | ref :: refs => by rw [relabelRefs, relabelRef_same ref, relabelRefs_same refs]

theorem relabelElse_same : ∀ branch : Option Node, relabelElse .same branch = branch
  | none => rfl
  | some node => by rw [relabelElse, Node.relabel_same node]

end

/-! ## Section 2: Functions, programs, faults and events -/

/-- The function with its new labels. -/
def Routine.relabel (σ : Relabeling) (routine : Routine) : Routine :=
  ⟨σ.routine routine.name, routine.params.map σ.name, routine.body.relabel σ,
    σ.place routine.loc⟩

theorem Routine.relabel_same (routine : Routine) : routine.relabel .same = routine := by
  simp only [Routine.relabel, Relabeling.same, List.map_id']
  rw [show routine.body.relabel ⟨fun name => name, fun routine => routine, fun loc => loc⟩ =
    routine.body from Node.relabel_same routine.body]

/-- The program with its new labels. -/
def Program.relabel (σ : Relabeling) (program : Program) : Program :=
  ⟨program.routines.map (Routine.relabel σ), relabelAll σ program.globals⟩

/-- The fault as it is reported under the new labels. -/
def Fault.relabel (σ : Relabeling) : Fault → Fault
  | .inputExhausted consumed loc => .inputExhausted consumed (σ.place loc)
  | .undefinedRoutine name loc => .undefinedRoutine (σ.routine name) (σ.place loc)
  | .noMain => .noMain
  | .argumentCount name expected found loc =>
    .argumentCount (σ.routine name) expected found (σ.place loc)
  | .divisionByZero loc => .divisionByZero (σ.place loc)
  | .stepLimit limit loc => .stepLimit limit (σ.place loc)
  | .callDepth limit loc => .callDepth limit (σ.place loc)
  | .traceMemory needed limit => .traceMemory needed limit
  | .statementAsValue statement loc => .statementAsValue statement (σ.place loc)

/-- The halt as it is reported under the new labels. -/
def Halt.relabel (σ : Relabeling) : Halt → Halt
  | .fault cause => .fault (cause.relabel σ)
  | .outOfBudget => .outOfBudget

theorem Halt.relabel_same (halt : Halt) : halt.relabel .same = halt := by
  cases halt with
  | outOfBudget => rfl
  | fault cause => cases cause <;> rfl

/-- The event as it is kept under the new labels. -/
def Event.relabel (σ : Relabeling) : Event → Event
  | .loaded routine params => .loaded (σ.routine routine) params
  | .declared name scope => .declared (σ.name name) scope
  | .called routine args depth => .called (σ.routine routine) args depth
  | event => event

theorem Event.relabel_same (event : Event) : event.relabel .same = event := by
  cases event <;> rfl

end Stepwise
