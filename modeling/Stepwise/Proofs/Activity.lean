import Stepwise.Machine.Runner
import Stepwise.Proofs.Discipline

/-!
# The points of a run

Evaluation goes down the tree and through calls, and at each of its points it is busy with some task:
an expression, a statement, the rest of a loop, a call. An activity is a task together with the machine
on which it begins. `Begins ctx a b` says that the activity `a`, on its way, begins the activity `b`; it
has one rule for each place where evaluation turns to a part of its task, and each rule asks that what
comes before that place has given its values.

The points of a run are the machines on which the activities of the run begin and end. A statement
about every point is thus proved by looking at each rule once.

## Main results

* `Begins.cases`: what evaluation has done on its way to a beginning.
* `Reaches.invariant`: what every beginning hands on holds wherever evaluation gets.
* `Runner.Visits.outcome`: what halts an activity of a run is the outcome of the run.
-/

namespace Stepwise

open Machine Exec

/-! ## Section 1: Tasks -/

/-- What evaluation can be busy with. -/
inductive Task where
  | value (node : Node)
  | values (nodes : List Node)
  | slot (ref : Reference Node)
  | input (loc : Location) (targets : List (Reference Node))
  | output (items : List Node)
  | statement (node : Node)
  | statements (nodes : List Node)
  | branch (node : Option Node)
  /-- The rest of a loop, of which so many rounds can be begun. A loop without a condition goes on, and
  one without a step has a body only. -/
  | loop (condition : Option Node) (body : Node) (step : Option Node) (rounds : Nat)
  | call (routine : Routine) (args : List Int32) (loc : Location)

/-- Whether a loop with this condition goes on. -/
def loopCondition (ctx : Context) (enter : Enter) : Option Node → Exec Bool
  | none => return true
  | some condition => holds ctx enter condition

/-- The step of a loop. -/
def loopStep (ctx : Context) (enter : Enter) : Option Node → Exec Unit
  | none => return
  | some step => do let _ ← eval ctx enter step

/-- A condition as the header of a for loop has it: one that is left out is none. -/
def forCondition (condition : Node) : Option Node :=
  if condition.isEmpty then none else some condition

theorem loopCondition_forCondition (ctx : Context) (enter : Enter) (condition : Node) :
    loopCondition ctx enter (forCondition condition) = goesOn ctx enter condition := by
  unfold forCondition goesOn
  split <;> rfl

namespace Task

/-- The action of a task, its value aside. -/
def action (ctx : Context) (budget : Nat) : Task → Exec Unit
  | value node => do let _ ← eval ctx (activate ctx budget) node
  | values nodes => do let _ ← evalAll ctx (activate ctx budget) nodes
  | slot ref => do let _ ← Machine.slot ctx (activate ctx budget) ref
  | input loc targets => readAll ctx (activate ctx budget) loc targets
  | output items => printAll ctx (activate ctx budget) items
  | statement node => do let _ ← exec ctx (activate ctx budget) budget node
  | statements nodes => do let _ ← execAll ctx (activate ctx budget) budget nodes
  | branch node => do let _ ← execElse ctx (activate ctx budget) budget node
  | loop condition body step left => do
    let _ ← rounds ctx (loopCondition ctx (activate ctx budget) condition)
      (exec ctx (activate ctx budget) budget body) (loopStep ctx (activate ctx budget) step) left
  | call routine args loc => do let _ ← activate ctx budget routine args loc

/-- How many calls a task is: one or none. -/
def calls : Task → Nat
  | call _ _ _ => 1
  | _ => 0

end Task

/-- A task that is begun on a machine, with a budget for the loops and calls in it. -/
structure Activity where
  /-- How many rounds each loop may begin, and how deeply calls may be nested. -/
  budget : Nat
  /-- What is done. -/
  task : Task
  /-- The machine at the beginning. -/
  machine : Machine

/-- The machine at the end of an activity, whether it has given a value or halted. -/
def Activity.final (ctx : Context) (a : Activity) : Machine :=
  Exec.final (a.task.action ctx a.budget a.machine)

/-! ## Section 2: What an activity begins -/

/-- The machine as what runs in a new scope finds it. -/
def Machine.inside (m : Machine) : Machine :=
  m.opened.noted (.scopeEntered m.store.depth m.scope)

/-- The machine as the body of a function finds it, its parameters not being bound yet. -/
def Machine.insideCall (routine : Routine) (args : List Int32) (m : Machine) : Machine :=
  ((m.noted (.called routine.name args (m.callDepth + 1))).called routine.name).inside

/-- Whether a node is an expression when it stands as a statement. -/
def Node.standsAlone : Node → Bool
  | .sequence _ | .declaration _ _ | .ifElse _ _ _ _ | .whileLoop _ _ _ | .forLoop _ _ _ _ _
  | .block _ _ | .giveBack _ _ => false
  | _ => true

/-- The activity `a`, on its way, begins the activity `b`. -/
inductive Begins (ctx : Context) : Activity → Activity → Prop where
  -- Expressions.
  | var {b : Nat} {m : Machine} {ref : Reference Node} :
      Begins ctx ⟨b, .value (.var ref), m⟩ ⟨b, .slot ref, m⟩
  | assigned {b : Nat} {m : Machine} {loc : Location} {target : Reference Node} {value : Node} :
      Begins ctx ⟨b, .value (.assignment target value loc), m⟩ ⟨b, .value value, m⟩
  | target {b : Nat} {m m₁ : Machine} {loc : Location} {target : Reference Node} {value : Node}
      {v : Int32} (hvalue : eval ctx (activate ctx b) value m = .ok v m₁) :
      Begins ctx ⟨b, .value (.assignment target value loc), m⟩ ⟨b, .slot target, m₁⟩
  | operand {b : Nat} {m : Machine} {loc : Location} {op : UnaryOp} {operand : Node} :
      Begins ctx ⟨b, .value (.unary op operand loc), m⟩ ⟨b, .value operand, m⟩
  | left {b : Nat} {m : Machine} {loc : Location} {op : BinaryOp} {left right : Node} :
      Begins ctx ⟨b, .value (.binary op left right loc), m⟩ ⟨b, .value left, m⟩
  | right {b : Nat} {m m₁ : Machine} {loc : Location} {op : BinaryOp} {left right : Node}
      {x : Int32} (hleft : eval ctx (activate ctx b) left m = .ok x m₁) :
      Begins ctx ⟨b, .value (.binary op left right loc), m⟩ ⟨b, .value right, m₁⟩
  | byte {b : Nat} {m : Machine} {loc : Location} {arg : Node} :
      Begins ctx ⟨b, .value (.call putchar [arg] loc), m⟩ ⟨b, .value arg, m⟩
  | args {b : Nat} {m : Machine} {loc : Location} {callee : String} {args : List Node}
      {routine : Routine} (hname : callee ≠ putchar)
      (hfind : ctx.program.find? callee = some routine)
      (hcount : routine.params.length = args.length) :
      Begins ctx ⟨b, .value (.call callee args loc), m⟩ ⟨b, .values args, m⟩
  | enter {b : Nat} {m m₁ : Machine} {loc : Location} {callee : String} {args : List Node}
      {routine : Routine} {values : List Int32} (hname : callee ≠ putchar)
      (hfind : ctx.program.find? callee = some routine)
      (hcount : routine.params.length = args.length)
      (hargs : evalAll ctx (activate ctx b) args m = .ok values m₁) :
      Begins ctx ⟨b, .value (.call callee args loc), m⟩ ⟨b, .call routine values loc, m₁⟩
  | input {b : Nat} {m : Machine} {loc : Location} {targets : List (Reference Node)} :
      Begins ctx ⟨b, .value (.input targets loc), m⟩ ⟨b, .input loc targets, m⟩
  | output {b : Nat} {m : Machine} {loc : Location} {items : List Node} :
      Begins ctx ⟨b, .value (.output items loc), m⟩ ⟨b, .output items, m⟩
  | head {b : Nat} {m : Machine} {node : Node} {nodes : List Node} :
      Begins ctx ⟨b, .values (node :: nodes), m⟩ ⟨b, .value node, m⟩
  | tail {b : Nat} {m m₁ : Machine} {node : Node} {nodes : List Node} {v : Int32}
      (hnode : eval ctx (activate ctx b) node m = .ok v m₁) :
      Begins ctx ⟨b, .values (node :: nodes), m⟩ ⟨b, .values nodes, m₁⟩
  | indices {b : Nat} {m : Machine} {loc : Location} {name : String} {indices : List Node} :
      Begins ctx ⟨b, .slot ⟨name, indices, loc⟩, m⟩ ⟨b, .values indices, m⟩
  | inputTarget {b : Nat} {m : Machine} {loc : Location} {target : Reference Node}
      {targets : List (Reference Node)} :
      Begins ctx ⟨b, .input loc (target :: targets), m⟩ ⟨b, .slot target, m⟩
  | inputMore {b : Nat} {m m₁ m₂ m₃ : Machine} {loc : Location} {target : Reference Node}
      {targets : List (Reference Node)} {key : String} {v : Int32}
      (hslot : slot ctx (activate ctx b) target m = .ok key m₁) (hnext : next loc m₁ = .ok v m₂)
      (hsave : save key v m₂ = .ok () m₃) :
      Begins ctx ⟨b, .input loc (target :: targets), m⟩ ⟨b, .input loc targets, m₃⟩
  | outputItem {b : Nat} {m : Machine} {item : Node} {items : List Node}
      (hitem : ∀ loc, item ≠ .endl loc) :
      Begins ctx ⟨b, .output (item :: items), m⟩ ⟨b, .value item, m⟩
  | outputMore {b : Nat} {m m₁ m₂ : Machine} {item : Node} {items : List Node} {v : Int32}
      (hitem : ∀ loc, item ≠ .endl loc) (hvalue : eval ctx (activate ctx b) item m = .ok v m₁)
      (hprint : print (·.putInt v) m₁ = .ok () m₂) :
      Begins ctx ⟨b, .output (item :: items), m⟩ ⟨b, .output items, m₂⟩
  | outputNewline {b : Nat} {m m₁ : Machine} {loc : Location} {items : List Node}
      (hprint : print Output.newline m = .ok () m₁) :
      Begins ctx ⟨b, .output (.endl loc :: items), m⟩ ⟨b, .output items, m₁⟩
  -- Statements.
  | sequence {b : Nat} {m : Machine} {nodes : List Node} :
      Begins ctx ⟨b, .statement (.sequence nodes), m⟩ ⟨b, .statements nodes, m⟩
  | condition {b : Nat} {m m₁ : Machine} {loc : Location} {condition thenBranch : Node}
      {elseBranch : Option Node}
      (harrive : arrive ctx (.ifElse condition thenBranch elseBranch loc) m = .ok () m₁) :
      Begins ctx ⟨b, .statement (.ifElse condition thenBranch elseBranch loc), m⟩
        ⟨b, .value condition, m₁⟩
  | thenBranch {b : Nat} {m m₁ m₂ : Machine} {loc : Location} {condition thenBranch : Node}
      {elseBranch : Option Node}
      (harrive : arrive ctx (.ifElse condition thenBranch elseBranch loc) m = .ok () m₁)
      (hcondition : holds ctx (activate ctx b) condition m₁ = .ok true m₂) :
      Begins ctx ⟨b, .statement (.ifElse condition thenBranch elseBranch loc), m⟩
        ⟨b, .statement thenBranch, m₂⟩
  | elseBranch {b : Nat} {m m₁ m₂ : Machine} {loc : Location} {condition thenBranch : Node}
      {elseBranch : Option Node}
      (harrive : arrive ctx (.ifElse condition thenBranch elseBranch loc) m = .ok () m₁)
      (hcondition : holds ctx (activate ctx b) condition m₁ = .ok false m₂) :
      Begins ctx ⟨b, .statement (.ifElse condition thenBranch elseBranch loc), m⟩
        ⟨b, .branch elseBranch, m₂⟩
  | whileLoop {b : Nat} {m m₁ : Machine} {loc : Location} {condition body : Node}
      (harrive : arrive ctx (.whileLoop condition body loc) m = .ok () m₁) :
      Begins ctx ⟨b, .statement (.whileLoop condition body loc), m⟩
        ⟨b, .loop (some condition) body none b, m₁⟩
  | init {b : Nat} {m m₁ : Machine} {loc : Location} {init condition step body : Node}
      (harrive : arrive ctx (.forLoop init condition step body loc) m = .ok () m₁) :
      Begins ctx ⟨b, .statement (.forLoop init condition step body loc), m⟩ ⟨b, .statement init, m₁⟩
  | forLoop {b : Nat} {m m₁ m₂ : Machine} {loc : Location} {init condition step body : Node}
      (harrive : arrive ctx (.forLoop init condition step body loc) m = .ok () m₁)
      (hinit : exec ctx (activate ctx b) b init m₁ = .ok .normal m₂) :
      Begins ctx ⟨b, .statement (.forLoop init condition step body loc), m⟩
        ⟨b, .loop (forCondition condition) body (some step) b, m₂⟩
  | block {b : Nat} {m m₁ : Machine} {loc : Location} {body : Node}
      (harrive : arrive ctx (.block body loc) m = .ok () m₁) :
      Begins ctx ⟨b, .statement (.block body loc), m⟩ ⟨b, .statement body, m₁.inside⟩
  | giveBack {b : Nat} {m m₁ : Machine} {loc : Location} {value : Node}
      (harrive : arrive ctx (.giveBack value loc) m = .ok () m₁) :
      Begins ctx ⟨b, .statement (.giveBack value loc), m⟩ ⟨b, .value value, m₁⟩
  | alone {b : Nat} {m m₁ : Machine} {node : Node} (hnode : node.standsAlone)
      (harrive : arrive ctx node m = .ok () m₁) :
      Begins ctx ⟨b, .statement node, m⟩ ⟨b, .value node, m₁⟩
  | first {b : Nat} {m : Machine} {node : Node} {nodes : List Node} :
      Begins ctx ⟨b, .statements (node :: nodes), m⟩ ⟨b, .statement node, m⟩
  | rest {b : Nat} {m m₁ : Machine} {node : Node} {nodes : List Node}
      (hnode : exec ctx (activate ctx b) b node m = .ok .normal m₁) :
      Begins ctx ⟨b, .statements (node :: nodes), m⟩ ⟨b, .statements nodes, m₁⟩
  | branch {b : Nat} {m : Machine} {node : Node} :
      Begins ctx ⟨b, .branch (some node), m⟩ ⟨b, .statement node, m⟩
  -- Loops.
  | test {b k : Nat} {m : Machine} {condition body : Node} {step : Option Node} :
      Begins ctx ⟨b, .loop (some condition) body step k, m⟩ ⟨b, .value condition, m⟩
  | round {b k : Nat} {m m₁ m₂ : Machine} {condition : Option Node} {body : Node}
      {step : Option Node}
      (hcondition : loopCondition ctx (activate ctx b) condition m = .ok true m₁)
      (htick : tick ctx m₁ = .ok () m₂) :
      Begins ctx ⟨b, .loop condition body step (k + 1), m⟩ ⟨b, .statement body, m₂⟩
  | step {b k : Nat} {m m₁ m₂ m₃ : Machine} {condition : Option Node} {body step : Node}
      (hcondition : loopCondition ctx (activate ctx b) condition m = .ok true m₁)
      (htick : tick ctx m₁ = .ok () m₂)
      (hbody : exec ctx (activate ctx b) b body m₂ = .ok .normal m₃) :
      Begins ctx ⟨b, .loop condition body (some step) (k + 1), m⟩ ⟨b, .value step, m₃⟩
  | again {b k : Nat} {m m₁ m₂ m₃ m₄ : Machine} {condition : Option Node} {body : Node}
      {step : Option Node}
      (hcondition : loopCondition ctx (activate ctx b) condition m = .ok true m₁)
      (htick : tick ctx m₁ = .ok () m₂)
      (hbody : exec ctx (activate ctx b) b body m₂ = .ok .normal m₃)
      (hstep : loopStep ctx (activate ctx b) step m₃ = .ok () m₄) :
      Begins ctx ⟨b, .loop condition body step (k + 1), m⟩ ⟨b, .loop condition body step k, m₄⟩
  -- Calls.
  | body {b : Nat} {m m₁ m₂ : Machine} {loc : Location} {routine : Routine} {args : List Int32}
      (hdepth : m.callDepth ≤ ctx.limits.maxDepth) (htick : tick ctx m = .ok () m₁)
      (hparams : bindParams routine.params args (m₁.insideCall routine args) = .ok () m₂) :
      Begins ctx ⟨b + 1, .call routine args loc, m⟩ ⟨b, .statement routine.body, m₂⟩

/-! ## Section 3: Where evaluation gets -/

/-- The activity `a` leads to the activity `b`, with so many calls under way in between. -/
inductive Reaches (ctx : Context) (a : Activity) : Nat → Activity → Prop where
  | self : Reaches ctx a 0 a
  | begins {calls : Nat} {b c : Activity} (hb : Reaches ctx a calls b) (hc : Begins ctx b c) :
      Reaches ctx a (calls + b.task.calls) c

/-- What every beginning hands on holds wherever evaluation gets. -/
theorem Reaches.invariant {ctx : Context} {P : Machine → Prop} {a b : Activity} {calls : Nat}
    (hP : ∀ {a b}, Begins ctx a b → P a.machine → P b.machine) (h : Reaches ctx a calls b)
    (ha : P a.machine) : P b.machine := by
  induction h with
  | self => exact ha
  | begins _ hc ih => exact hP hc ih

/-! ## Section 4: What has been done before a beginning -/

namespace Discipline

variable {ctx : Context} (D : Discipline ctx) (budget : Nat)

theorem obeys_loopCondition (condition : Option Node) :
    Obeys (D.value 0) (loopCondition ctx (activate ctx budget) condition) := by
  cases condition with
  | none => exact D.value_pure true
  | some condition => exact D.obeys_holds (D.obeys_enter budget) condition

theorem obeys_loopStep (step : Option Node) :
    Obeys (D.value 0) (loopStep ctx (activate ctx budget) step) := by
  cases step with
  | none => exact D.value_pure ()
  | some step =>
    exact D.value_bind (D.obeys_eval (D.obeys_enter budget) step) fun _ => D.value_pure ()

/-- Every task keeps to a discipline. -/
theorem obeys_task (task : Task) : Obeys (D.statement 0) (task.action ctx budget) := by
  have henter := D.obeys_enter budget
  -- Dropping the value of an action changes nothing about the machine.
  have hforget : ∀ {α : Type} {x : Exec α}, Obeys (D.statement 0) x →
      Obeys (D.statement 0) (do let _ ← x) :=
    fun hx => D.statement_bind hx fun _ => D.statement_pure ()
  cases task with
  | value node => exact hforget (D.statement_of_value (D.obeys_eval henter node))
  | values nodes => exact hforget (D.statement_of_value (D.obeys_evalAll henter nodes))
  | slot ref => exact hforget (D.statement_of_value (D.obeys_slot henter ref))
  | input loc targets => exact D.statement_of_value (D.obeys_readAll henter loc targets)
  | output items => exact D.statement_of_value (D.obeys_printAll henter items)
  | statement node => exact hforget (D.obeys_exec henter (Nat.zero_le budget) node)
  | statements nodes => exact hforget (D.obeys_execAll henter (Nat.zero_le budget) nodes)
  | branch node => exact hforget (D.obeys_execElse henter (Nat.zero_le budget) node)
  | loop condition body step left =>
    exact hforget (D.obeys_rounds (D.obeys_loopCondition budget condition)
      (D.obeys_exec henter (Nat.zero_le budget) body) (D.obeys_loopStep budget step)
      (Nat.zero_le left))
  | call routine args loc => exact hforget (D.statement_of_value (henter routine args loc))

end Discipline

/-- What has been done on the way to a beginning: something within the same scope, or something and
then the creation of a scope, or the step of a call and then the creation of the scope of its body. -/
theorem Begins.cases {ctx : Context} (D : Discipline ctx) {a b : Activity} (h : Begins ctx a b) :
    D.statement 0 a.machine none b.machine ∨
      (∃ m, D.value 0 a.machine none m ∧ b.machine = m.inside) ∨
      ∃ routine args loc m, a.task = .call routine args loc ∧
        a.machine.callDepth ≤ ctx.limits.maxDepth ∧ tick ctx a.machine = .ok () m ∧
        bindParams routine.params args (m.insideCall routine args) = .ok () b.machine := by
  have hrefl := (D.statement_closed 0).refl
  have htrans := @(D.statement_closed 0).trans
  have heval : ∀ {b node m m' v}, eval ctx (activate ctx b) node m = .ok v m' →
      D.statement 0 m none m' :=
    fun h => (D.statement_of_value (D.obeys_eval (D.obeys_enter _) _)).of_ok h
  have hexec : ∀ {b node m m' flow}, exec ctx (activate ctx b) b node m = .ok flow m' →
      D.statement 0 m none m' :=
    fun h => (D.obeys_exec (D.obeys_enter _) (Nat.zero_le _) _).of_ok h
  have harrive : ∀ {node m m'}, arrive ctx node m = .ok () m' → D.statement 0 m none m' :=
    fun h => (D.statement_of_value (D.arrive _)).of_ok h
  have hholds : ∀ {b condition m m' v}, holds ctx (activate ctx b) condition m = .ok v m' →
      D.statement 0 m none m' :=
    fun h => (D.statement_of_value (D.obeys_holds (D.obeys_enter _) _)).of_ok h
  have hgoesOn : ∀ {b condition m m' v}, loopCondition ctx (activate ctx b) condition m = .ok v m' →
      D.statement 0 m none m' :=
    fun h => (D.statement_of_value (D.obeys_loopCondition _ _)).of_ok h
  have htick : ∀ {m m'}, tick ctx m = .ok () m' → D.statement 0 m none m' :=
    fun h => (D.statement_of_value (D.tick 0)).of_ok h
  cases h with
  -- The first part of a task begins on the very machine on which the task does.
  | var | assigned | operand | left | byte | args | input | output | head | indices | inputTarget
  | outputItem | sequence | first | branch | test => exact .inl (hrefl _)
  | target h | right h | tail h => exact .inl (heval h)
  | enter _ _ _ h =>
    exact .inl ((D.statement_of_value (D.obeys_evalAll (D.obeys_enter _) _)).of_ok h)
  | inputMore hslot hnext hsave =>
    have h₁ := (D.obeys_slot (D.obeys_enter _) _).of_ok hslot
    have h₂ := (D.next 0 _).of_ok hnext
    have h₃ := (D.save 0 _ _).of_ok hsave
    exact .inl (D.value_statement ((D.value_closed 0).trans h₁ ((D.value_closed 0).trans h₂ h₃)))
  | outputMore _ hvalue hprint =>
    exact .inl (htrans (heval hvalue) (D.value_statement ((D.putInt 0 _).of_ok hprint)))
  | outputNewline hprint => exact .inl (D.value_statement ((D.newline 0).of_ok hprint))
  | condition h | whileLoop h | init h | giveBack h | alone _ h => exact .inl (harrive h)
  | thenBranch h hcondition | elseBranch h hcondition =>
    exact .inl (htrans (harrive h) (hholds hcondition))
  | forLoop h hinit => exact .inl (htrans (harrive h) (hexec hinit))
  | block h => exact .inr (.inl ⟨_, (D.arrive _).of_ok h, rfl⟩)
  | rest h => exact .inl (hexec h)
  | round hcondition h => exact .inl (htrans (hgoesOn hcondition) (htick h))
  | step hcondition h hbody =>
    exact .inl (htrans (hgoesOn hcondition) (htrans (htick h) (hexec hbody)))
  | again hcondition h hbody hstep =>
    have hlast := (D.statement_of_value (D.obeys_loopStep _ _)).of_ok hstep
    exact .inl (htrans (hgoesOn hcondition) (htrans (htick h) (htrans (hexec hbody) hlast)))
  | body hdepth h hparams => exact .inr (.inr ⟨_, _, _, _, rfl, hdepth, h, hparams⟩)

/-! ## Section 5: What halts on the way halts the whole -/

/-- What halts the body of a function halts its call. -/
theorem halt?_runBody {ctx : Context} {budget : Nat} {routine : Routine} {args : List Int32}
    {m m' : Machine} {halt : Halt}
    (hparams : bindParams routine.params args (m.insideCall routine args) = .ok () m')
    (hbody : halt? (exec ctx (activate ctx budget) budget routine.body m') = some halt) :
    halt? (runBody ctx budget routine args m.callDepth m) = some halt := by
  unfold runBody
  rw [bind_of_ok (note_apply _ m)]
  refine halt?_bind ?_
  rw [inCall_apply, halt?_andThen, inScope_apply, halt?_andThen, bind_of_ok (note_apply _ _)]
  exact (congrArg halt? (bind_of_ok hparams)).trans hbody

theorem exec_of_standsAlone {ctx : Context} {enter : Enter} {budget : Nat} {node : Node}
    (h : node.standsAlone) :
    exec ctx enter budget node = (do
      arrive ctx node
      let _ ← eval ctx enter node
      return .normal) := by
  cases node <;> first | rfl | cases h

/-- An activity that halts halts the one that has begun it, and for the same reason. So every rule of
`Begins` tells of something that evaluation does. -/
theorem Begins.halts {ctx : Context} {a b : Activity} (h : Begins ctx a b) {halt : Halt}
    (hb : halt? (b.task.action ctx b.budget b.machine) = some halt) :
    halt? (a.task.action ctx a.budget a.machine) = some halt := by
  cases h
  -- Each case runs what stands before the part that halts, and drops what stands behind it.
  all_goals simp only [Task.action, halt?_discard] at hb ⊢
  case var | assigned | operand | left | input | output =>
    rw [eval]
    exact halt?_bind hb
  case target h | right h =>
    rw [eval, bind_of_ok h]
    exact halt?_bind hb
  case byte =>
    rw [eval_putchar]
    exact halt?_bind hb
  case args hname hfind hcount =>
    rw [eval_call hname hfind hcount]
    exact halt?_bind hb
  case enter hname hfind hcount hargs =>
    rw [eval_call hname hfind hcount, bind_of_ok hargs]
    exact hb
  case head =>
    rw [evalAll]
    exact halt?_bind hb
  case tail hnode =>
    rw [evalAll, bind_of_ok hnode]
    exact halt?_bind hb
  case indices =>
    rw [slot]
    exact halt?_bind hb
  case inputTarget =>
    rw [readAll]
    exact halt?_bind hb
  case inputMore hslot hnext hsave =>
    rw [readAll, bind_of_ok hslot, bind_of_ok hnext, bind_of_ok hsave]
    exact hb
  case outputItem hitem =>
    rw [printAll_cons_of_ne_endl hitem]
    exact halt?_bind hb
  case outputMore hitem hvalue hprint =>
    rw [printAll_cons_of_ne_endl hitem, bind_of_ok hvalue, bind_of_ok hprint]
    exact hb
  case outputNewline hprint =>
    rw [printAll, bind_of_ok hprint]
    exact hb
  case sequence =>
    rw [exec]
    exact hb
  case condition harrive =>
    rw [exec, bind_of_ok harrive]
    exact halt?_bind (halt?_bind hb)
  case thenBranch harrive hcondition | elseBranch harrive hcondition =>
    rw [exec, bind_of_ok harrive, bind_of_ok hcondition]
    exact hb
  case whileLoop harrive =>
    rw [exec, bind_of_ok harrive]
    exact hb
  case init harrive | giveBack harrive =>
    rw [exec, bind_of_ok harrive]
    exact halt?_bind hb
  case forLoop harrive hinit =>
    rw [exec, bind_of_ok harrive, bind_of_ok hinit]
    rw [loopCondition_forCondition] at hb
    exact hb
  case block harrive =>
    rw [exec, bind_of_ok harrive, inScope_apply, halt?_andThen]
    exact hb
  case alone hnode harrive =>
    rw [exec_of_standsAlone hnode, bind_of_ok harrive]
    exact halt?_bind hb
  case first =>
    rw [execAll]
    exact halt?_bind hb
  case rest hnode =>
    rw [execAll, bind_of_ok hnode]
    exact hb
  case branch =>
    rw [execElse]
    exact hb
  case test k _ _ _ _ =>
    cases k <;> exact halt?_bind (halt?_bind hb)
  case round hcondition htick =>
    rw [rounds, bind_of_ok hcondition, if_pos rfl, bind_of_ok htick]
    exact halt?_bind hb
  case step hcondition htick hbody =>
    rw [rounds, bind_of_ok hcondition, if_pos rfl, bind_of_ok htick, bind_of_ok hbody]
    exact halt?_bind (halt?_bind hb)
  case again hcondition htick hbody hstep =>
    rw [rounds, bind_of_ok hcondition, if_pos rfl, bind_of_ok htick, bind_of_ok hbody]
    exact (congrArg halt? (bind_of_ok hstep)).trans hb
  case body m m₁ m₂ loc routine args hdepth htick hparams =>
    obtain rfl := eq_of_tick htick
    rw [activate_succ]
    show halt? ((if _ then _ else _ : Exec Int32) m) = _
    rw [if_neg (Nat.not_lt.mpr hdepth), bind_of_ok htick]
    exact halt?_runBody hparams hb

/-- What halts wherever evaluation gets halts all of it. -/
theorem Reaches.halts {ctx : Context} {a b : Activity} {calls : Nat} (h : Reaches ctx a calls b)
    {halt : Halt} (hb : halt? (b.task.action ctx b.budget b.machine) = some halt) :
    halt? (a.task.action ctx a.budget a.machine) = some halt := by
  induction h with
  | self => exact hb
  | begins _ hc ih => exact ih (hc.halts hb)

/-! ## Section 6: Runs -/

theorem Discipline.obeys_runGlobals {ctx : Context} (D : Discipline ctx) (budget : Nat)
    (nodes : List Node) : Obeys (D.statement budget) (Runner.runGlobals ctx budget nodes) := by
  induction nodes with
  | nil => exact D.statement_pure ()
  | cons node nodes ih =>
    exact D.statement_bind (D.obeys_exec (D.obeys_activate budget) (Nat.le_refl budget) node)
      fun _ => ih

/-- A run is a change of one kind if its globals and the body of its main function are, and what is
done around them. -/
theorem Exec.Obeys.whole {C : Change} (hC : C.Closed) {ctx : Context} {budget : Nat}
    {main : Routine} (hglobals : Obeys C (Runner.runGlobals ctx budget ctx.program.globals))
    (hbody : Obeys C (exec ctx (activate ctx budget) budget main.body))
    (hnote : ∀ event, Obeys C (note event))
    (hframe : ∀ (m : Machine) (routine : String) (loc : Location) (callDepth : Nat),
      C m none { m with routine := routine, loc := loc, callDepth := callDepth }) :
    Obeys C (Runner.whole ctx budget main) := by
  have hended : Obeys C (do
      modify fun m => { m with callDepth := 0 }
      let m ← get
      note (.finished m.steps m.output.size)) :=
    .bind hC (fun m => hframe m m.routine m.loc 0) fun _ => .get_bind fun _ => hnote _
  refine .bind hC hglobals fun _ => .bind hC (hnote .mainEntered) fun _ =>
    .bind hC (fun m => hframe m mainName main.loc 1) fun _ => .bind hC hbody fun flow => ?_
  cases flow with
  | normal => exact hended
  | returned value => exact .bind hC (hnote (.mainReturned value)) fun _ => hended

namespace Runner

/-- The machine on which the main function begins. -/
def mainMachine (main : Routine) (m : Machine) : Machine :=
  { m.noted .mainEntered with routine := mainName, loc := main.loc, callDepth := 1 }

/-- A global that halts halts the globals. -/
theorem halt?_runGlobals {ctx : Context} {budget : Nat} {before after : List Node} {node : Node}
    {m m' : Machine} {halt : Halt} (hbefore : runGlobals ctx budget before m = .ok () m')
    (hnode : halt? (exec ctx (activate ctx budget) budget node m') = some halt) :
    halt? (runGlobals ctx budget (before ++ node :: after) m) = some halt := by
  induction before generalizing m with
  | nil =>
    cases hbefore
    exact halt?_bind hnode
  | cons first before ih =>
    rw [runGlobals] at hbefore
    simp only [bind, EStateM.bind] at hbefore
    split at hbefore
    · next flow m₁ hfirst =>
      rw [List.cons_append, runGlobals, bind_of_ok hfirst]
      exact ih hbefore
    · cases hbefore

theorem halt?_runMain {ctx : Context} {budget : Nat} {main : Routine} {m : Machine} {halt : Halt}
    (hbody : halt? (exec ctx (activate ctx budget) budget main.body (mainMachine main m)) =
      some halt) : halt? (runMain ctx budget main m) = some halt := by
  have hbegun : (modify fun m => { m with routine := mainName, loc := main.loc, callDepth := 1 } :
      Exec Unit) (m.noted .mainEntered) = .ok () (mainMachine main m) := rfl
  unfold runMain
  rw [bind_of_ok (note_apply _ m), bind_of_ok hbegun]
  exact halt?_bind hbody

/-- What a run begins by itself: its globals, one after the other, and then its main function. -/
inductive Starts (r : Runner) (budget : Nat) : Activity → Prop where
  | global {main : Routine} {before after : List Node} {node : Node} {m : Machine}
      (hmain : r.program.find? mainName = some main)
      (hglobals : r.program.globals = before ++ node :: after)
      (hbefore : runGlobals r.context budget before r.machine = .ok () m) :
      Starts r budget ⟨budget, .statement node, m⟩
  | main {main : Routine} {m : Machine} (hmain : r.program.find? mainName = some main)
      (hglobals : runGlobals r.context budget r.program.globals r.machine = .ok () m) :
      Starts r budget ⟨budget, .statement main.body, mainMachine main m⟩

/-- A run comes by an activity. -/
def Visits (r : Runner) (budget : Nat) (a : Activity) : Prop :=
  ∃ start calls, r.Starts budget start ∧ Reaches r.context start calls a

/-- What halts an activity of a run is the outcome of the run. -/
theorem Visits.outcome {r : Runner} {budget : Nat} {a : Activity} (h : r.Visits budget a)
    {halt : Halt} (ha : halt? (a.task.action r.context a.budget a.machine) = some halt) :
    (r.runWithin budget).1 = .error halt := by
  obtain ⟨start, calls, hstart, hreaches⟩ := h
  have hhalt := hreaches.halts ha
  cases hstart with
  | @global main before after node m hmain hglobals hbefore =>
    rw [Task.action, halt?_discard] at hhalt
    rw [(runWithin_of_main hmain budget).1]
    refine outcome_eq_error_iff.mpr (halt?_bind ?_)
    rw [show r.context.program.globals = before ++ node :: after from hglobals]
    exact halt?_runGlobals hbefore hhalt
  | @main main m hmain hglobals =>
    rw [Task.action, halt?_discard] at hhalt
    rw [(runWithin_of_main hmain budget).1]
    refine outcome_eq_error_iff.mpr ?_
    exact (congrArg halt? (bind_of_ok hglobals)).trans (halt?_runMain hhalt)

/-- A runner after any number of runs. -/
inductive Later (r : Runner) : Runner → Prop where
  | self : Later r r
  | again {r' : Runner} (h : Later r r') (budget : Nat) : Later r (r'.runWithin budget).2

end Runner

end Stepwise
