import Stepwise.Proofs.Actions

/-!
# Disciplines

A discipline says what evaluation may do to a machine: one kind of change for expressions and one for
statements, each closed under doing one thing after the other. If every primitive action keeps to a
discipline, then so does the evaluation of every tree, whether it gives a value or halts, and however
loops and calls are nested in it.

The kinds of change depend on a credit, which a round of a loop and a call spend one of. Most disciplines
ignore it. It is there for those that say what a run can afford.

## Main results

* `Discipline.obeys_eval`, `Discipline.obeys_exec`: evaluation keeps to a discipline.
* `Discipline.obeys_activate`: so does every call.
-/

namespace Stepwise

open Machine Exec

/-! ## Section 1: Kinds of change -/

/-- A kind of change: from which machine, whether halting or not, to which machine. -/
abbrev Change := Machine → Option Halt → Machine → Prop

/-- Whatever an action does is a change of one kind. -/
def Exec.Obeys {α : Type} (C : Change) (x : Exec α) : Prop :=
  ∀ m, C m (halt? (x m)) (final (x m))

/-- A kind of change that is closed under doing nothing and under doing one thing after another. -/
structure Change.Closed (C : Change) : Prop where
  refl (m : Machine) : C m none m
  trans {m m' m'' : Machine} {halt : Option Halt} : C m none m' → C m' halt m'' → C m halt m''

namespace Exec.Obeys

variable {α β : Type} {C : Change}

/-- Doing nothing is a change of every closed kind. -/
theorem pure (hC : C.Closed) (a : α) : Obeys C (Pure.pure a : Exec α) :=
  fun m => hC.refl m

/-- One action after another. Where the first one halts, it is all that has been done. -/
theorem bind (hC : C.Closed) {x : Exec α} {f : α → Exec β} (hx : Obeys C x)
    (hf : ∀ a, Obeys C (f a)) : Obeys C (x >>= f) := by
  intro m
  have hm := hx m
  simp only [Bind.bind, EStateM.bind]
  cases hxm : x m with
  | ok a m' =>
    rw [hxm] at hm
    exact hC.trans hm (hf a m')
  | error halt m' =>
    rw [hxm] at hm
    exact hm

/-- Looking at the machine changes nothing. -/
theorem get_bind {f : Machine → Exec α} (hf : ∀ m, Obeys C (f m)) : Obeys C (get >>= f) :=
  fun m => hf m m

/-- What an action does that gives a value, as a change that does not halt. -/
theorem of_ok {x : Exec α} (hx : Obeys C x) {m m' : Machine} {a : α} (h : x m = .ok a m') :
    C m none m' := by
  have hm := hx m
  rw [h] at hm
  exact hm

/-- A kind of change may be widened. -/
theorem mono {C' : Change} (hCC' : ∀ {m halt m'}, C m halt m' → C' m halt m') {x : Exec α}
    (hx : Obeys C x) : Obeys C' x :=
  fun m => hCC' (hx m)

end Exec.Obeys

/-! ## Section 2: Disciplines -/

/-- Whether evaluation raises a fault by itself. The others are raised by the actions that count
steps, read input and add records. -/
def Fault.isRaised : Fault → Bool
  | .undefinedRoutine _ _ | .argumentCount _ _ _ _ | .divisionByZero _ | .callDepth _ _
  | .statementAsValue _ _ => true
  | .inputExhausted _ _ | .noMain | .stepLimit _ _ | .traceMemory _ _ => false

/-- Calls are refused by faults that evaluation raises by itself. -/
theorem Fault.RefusesCall.isRaised {callee : String} {found : Nat} {loc : Location} {fault : Fault}
    (h : fault.RefusesCall callee found loc) : fault.isRaised := by
  cases h <;> rfl

/-- What evaluation under `ctx` may do, given a credit. -/
structure Discipline (ctx : Context) where
  /-- What the evaluation of an expression may do. -/
  value : Nat → Change
  /-- What running a statement may do. -/
  statement : Nat → Change
  value_closed (credit : Nat) : (value credit).Closed
  statement_closed (credit : Nat) : (statement credit).Closed
  value_statement {credit : Nat} {m m' : Machine} {halt : Option Halt} :
    value credit m halt m' → statement credit m halt m'
  /-- More credit only promises more. -/
  value_le {credit credit' : Nat} {m m' : Machine} {halt : Option Halt} (h : credit ≤ credit') :
    value credit' m halt m' → value credit m halt m'
  statement_le {credit credit' : Nat} {m m' : Machine} {halt : Option Halt} (h : credit ≤ credit') :
    statement credit' m halt m' → statement credit m halt m'
  fail (credit : Nat) {fault : Fault} (h : fault.isRaised) (m : Machine) :
    value credit m (some (.fault fault)) m
  place (credit : Nat) (loc : Location) (m : Machine) : value credit m none { m with loc := loc }
  tick (credit : Nat) : Obeys (value credit) (tick ctx)
  record (credit : Nat) (label : String) : Obeys (value credit) (record label)
  note (credit : Nat) (event : Event) : Obeys (value credit) (note event)
  save (credit : Nat) (key : String) (v : Int32) : Obeys (value credit) (save key v)
  next (credit : Nat) (loc : Location) : Obeys (value credit) (next loc)
  newline (credit : Nat) : Obeys (value credit) (print Output.newline)
  putByte (credit : Nat) (byte : UInt8) : Obeys (value credit) (print (·.putByte byte))
  putInt (credit : Nat) (v : Int32) : Obeys (value credit) (print (·.putInt v))
  declare (credit : Nat) (name : String) : Obeys (statement credit) (declare name)
  /-- What is done in a scope of its own is an expression's change outside. -/
  scope {credit : Nat} {m m' : Machine} {halt : Option Halt} :
    statement credit m.opened halt m' → value credit m halt (m'.closed m.scope)
  /-- What is done in a call is an expression's change to the caller. -/
  call {credit : Nat} {m m' : Machine} {halt : Option Halt} (routine : String) :
    value credit (m.called routine) halt m' → value credit m halt (m'.returned m.routine)
  /-- A step spends one of the credit. -/
  spend {α : Type} {credit : Nat} {x : Exec α} (h : Obeys (value credit) x) :
    Obeys (value (credit + 1)) (do Exec.tick ctx; x)
  spendStatement {α : Type} {credit : Nat} {x : Exec α} (h : Obeys (statement credit) x) :
    Obeys (statement (credit + 1)) (do Exec.tick ctx; x)
  /-- A step that cannot be paid for. -/
  spent {α : Type} : Obeys (value 0) (do Exec.tick ctx; throw .outOfBudget : Exec α)

namespace Discipline

variable {ctx : Context} (D : Discipline ctx) {α β : Type} {credit : Nat}

theorem value_bind {x : Exec α} {f : α → Exec β} (hx : Obeys (D.value credit) x)
    (hf : ∀ a, Obeys (D.value credit) (f a)) : Obeys (D.value credit) (x >>= f) :=
  .bind (D.value_closed credit) hx hf

theorem statement_bind {x : Exec α} {f : α → Exec β} (hx : Obeys (D.statement credit) x)
    (hf : ∀ a, Obeys (D.statement credit) (f a)) : Obeys (D.statement credit) (x >>= f) :=
  .bind (D.statement_closed credit) hx hf

theorem value_pure (a : α) : Obeys (D.value credit) (pure a) :=
  .pure (D.value_closed credit) a

theorem statement_pure (a : α) : Obeys (D.statement credit) (pure a) :=
  .pure (D.statement_closed credit) a

/-- What an expression may do, a statement may do. -/
theorem statement_of_value {x : Exec α} (h : Obeys (D.value credit) x) :
    Obeys (D.statement credit) x :=
  h.mono D.value_statement

theorem value_fail {fault : Fault} (h : fault.isRaised) :
    Obeys (D.value credit) (Exec.fail fault : Exec α) :=
  D.fail credit h

/-- Reading a slot changes nothing. -/
theorem load (key : String) : Obeys (D.value credit) (load key) :=
  .get_bind fun _ => D.value_pure _

/-- What a statement does in a scope of its own is, from outside, no more than an expression does. -/
theorem inScope {x : Exec α} (h : Obeys (D.statement credit) x) :
    Obeys (D.value credit) (inScope x) := by
  intro m
  have hinside := D.statement_bind (D.statement_of_value (D.note credit
    (.scopeEntered m.store.depth m.scope))) (fun _ => h) m.opened
  rw [inScope_apply, halt?_andThen, final_andThen]
  exact D.scope hinside

/-- From the caller's side, a call does no more than its body does as an expression. -/
theorem inCall (routine : String) {x : Exec α} (h : Obeys (D.value credit) x) :
    Obeys (D.value credit) (inCall routine x) := by
  intro m
  rw [inCall_apply, halt?_andThen, final_andThen]
  exact D.call routine (h (m.called routine))

/-- Coming to a node counts a step and may add a record. -/
theorem arrive (node : Node) : Obeys (D.value credit) (arrive ctx node) := by
  -- Only nodes with a place of their own change the place of the machine.
  have hcount : Obeys (D.value credit) (do Exec.tick ctx; Exec.record node.label) :=
    D.value_bind (D.tick credit) fun _ => D.record credit node.label
  unfold Exec.arrive
  cases node.loc? with
  | none => exact hcount
  | some loc => exact D.value_bind (D.place credit loc) fun _ => hcount

/-- Refusing a statement as a value is one of the faults raised. -/
theorem refuse (node : Node) : Obeys (D.value credit) (refuse node) :=
  .get_bind fun _ => D.value_fail rfl

/-! ## Section 3: Expressions -/

variable {enter : Enter}

mutual

/-- The evaluation of an expression keeps to a discipline, if calls do. -/
theorem obeys_eval (henter : ∀ routine args loc, Obeys (D.value credit) (enter routine args loc)) :
    ∀ node, Obeys (D.value credit) (eval ctx enter node)
  | .empty => D.value_pure 0
  | .endl _ => D.value_pure 0
  | .literal value _ => D.value_pure value
  | .var ref => D.value_bind (obeys_slot henter ref) fun key => D.load key
  | .assignment target value _ =>
    D.value_bind (obeys_eval henter value) fun v =>
      D.value_bind (obeys_slot henter target) fun key =>
        D.value_bind (D.save credit key v) fun _ => D.value_pure v
  | .unary _ operand _ => D.value_bind (obeys_eval henter operand) fun _ => D.value_pure _
  | .binary op left right loc =>
    D.value_bind (obeys_eval henter left) fun x =>
      D.value_bind (obeys_eval henter right) fun y => by
        cases op.apply? x y with
        | some value => exact D.value_pure value
        | none => exact D.value_fail rfl
  | .call callee args loc => by
    rcases eval_call_cases ctx enter callee args loc with
      ⟨arg, rfl, rfl⟩ | ⟨routine, hname, hfind, hcount⟩ | ⟨fault, hfault, hrefused⟩
    · -- Putting a byte evaluates the one argument.
      rw [eval_putchar]
      exact D.value_bind (obeys_eval henter arg) fun value =>
        D.value_bind (D.putByte credit _) fun _ => D.value_pure value
    · -- All arguments are evaluated before the function is entered.
      rw [eval_call hname hfind hcount]
      exact D.value_bind (obeys_evalAll henter args) fun values => henter routine values loc
    · -- A call that is refused evaluates nothing.
      rw [hrefused]
      exact D.value_fail hfault.isRaised
  | .input targets loc => D.value_bind (obeys_readAll henter loc targets) fun _ => D.value_pure 0
  | .output items _ => D.value_bind (obeys_printAll henter items) fun _ => D.value_pure 0
  | .sequence _ => D.refuse _
  | .declaration _ _ => D.refuse _
  | .ifElse _ _ _ _ => D.refuse _
  | .whileLoop _ _ _ => D.refuse _
  | .forLoop _ _ _ _ _ => D.refuse _
  | .giveBack _ _ => D.refuse _
  | .block _ _ => D.refuse _

/-- Expressions are evaluated one after the other. -/
theorem obeys_evalAll (henter : ∀ routine args loc, Obeys (D.value credit) (enter routine args loc)) :
    ∀ nodes, Obeys (D.value credit) (evalAll ctx enter nodes)
  | [] => D.value_pure []
  | node :: nodes =>
    D.value_bind (obeys_eval henter node) fun value =>
      D.value_bind (obeys_evalAll henter nodes) fun values => D.value_pure (value :: values)

/-- Finding a slot evaluates its indices. -/
theorem obeys_slot (henter : ∀ routine args loc, Obeys (D.value credit) (enter routine args loc)) :
    ∀ ref, Obeys (D.value credit) (slot ctx enter ref)
  | ⟨_, indices, _⟩ => D.value_bind (obeys_evalAll henter indices) fun _ => D.value_pure _

/-- Each target is found before its input is taken. -/
theorem obeys_readAll (henter : ∀ routine args loc, Obeys (D.value credit) (enter routine args loc))
    (loc : Location) : ∀ targets, Obeys (D.value credit) (readAll ctx enter loc targets)
  | [] => D.value_pure ()
  | target :: targets =>
    D.value_bind (obeys_slot henter target) fun key =>
      D.value_bind (D.next credit loc) fun value =>
        D.value_bind (D.save credit key value) fun _ => obeys_readAll henter loc targets

/-- Items are printed one after the other; an end of line is not evaluated. -/
theorem obeys_printAll (henter : ∀ routine args loc, Obeys (D.value credit) (enter routine args loc)) :
    ∀ items, Obeys (D.value credit) (printAll ctx enter items)
  | [] => D.value_pure ()
  | item :: items => by
    unfold Machine.printAll
    split
    · next hnil => cases hnil
    · next loc items' heq =>
      cases heq
      exact D.value_bind (D.newline credit) fun _ => obeys_printAll henter items
    · next item' items' _ heq =>
      cases heq
      exact D.value_bind (obeys_eval henter item) fun value =>
        D.value_bind (D.putInt credit value) fun _ => obeys_printAll henter items

end

/-! ## Section 4: Statements -/

/-- A condition is evaluated as an expression. -/
theorem obeys_holds (henter : ∀ routine args loc, Obeys (D.value credit) (enter routine args loc))
    (condition : Node) : Obeys (D.value credit) (holds ctx enter condition) :=
  D.value_bind (D.obeys_eval henter condition) fun _ => D.value_pure _

/-- A for loop without a condition goes on, and nothing is evaluated. -/
theorem obeys_goesOn (henter : ∀ routine args loc, Obeys (D.value credit) (enter routine args loc))
    (condition : Node) : Obeys (D.value credit) (goesOn ctx enter condition) := by
  unfold goesOn
  split
  · exact D.value_pure true
  · exact D.obeys_holds henter condition

/-- A step, and then what the rest of the credit allows. -/
theorem statement_tick {x : Exec α} (hx : Obeys (D.statement (credit - 1)) x) :
    Obeys (D.statement credit) (do Exec.tick ctx; x) := by
  cases credit with
  | zero => exact D.statement_bind (D.statement_of_value (D.tick 0)) fun _ => hx
  | succ credit => exact D.spendStatement hx

/-- The rounds of a loop, by induction on how many may be begun. Each of them spends one of the
credit, which is why it must not exceed their number. -/
theorem obeys_rounds {condition : Exec Bool} {body : Exec Flow} {step : Exec Unit}
    (hcondition : Obeys (D.value credit) condition) (hbody : Obeys (D.statement credit) body)
    (hstep : Obeys (D.value credit) step) {budget : Nat} (hbudget : credit ≤ budget) :
    Obeys (D.statement credit) (rounds ctx condition body step budget) := by
  induction budget generalizing credit with
  | zero =>
    -- No round can be begun, and so there is no credit either.
    obtain rfl : credit = 0 := Nat.le_zero.mp hbudget
    refine D.statement_bind (D.statement_of_value hcondition) fun holds => ?_
    cases holds with
    | false => exact D.statement_pure Flow.normal
    | true => exact D.statement_of_value D.spent
  | succ budget ih =>
    -- A round counts a step, and what follows it has one less to spend.
    have hless : credit - 1 ≤ credit := Nat.sub_le credit 1
    have hcondition' := hcondition.mono (D.value_le hless)
    have hbody' := hbody.mono (D.statement_le hless)
    have hstep' := hstep.mono (D.value_le hless)
    refine D.statement_bind (D.statement_of_value hcondition) fun holds => ?_
    cases holds with
    | false => exact D.statement_pure Flow.normal
    | true =>
      refine D.statement_tick (D.statement_bind hbody' fun flow => ?_)
      cases flow with
      | returned value => exact D.statement_pure (Flow.returned value)
      | normal =>
        exact D.statement_bind (D.statement_of_value hstep') fun _ =>
          ih hcondition' hbody' hstep' (Nat.sub_le_of_le_add hbudget)

/-- An expression that stands as a statement. -/
theorem obeys_alone (henter : ∀ routine args loc, Obeys (D.value credit) (enter routine args loc))
    (node : Node) :
    Obeys (D.statement credit) (do
      Exec.arrive ctx node
      let _ ← Machine.eval ctx enter node
      return .normal : Exec Flow) :=
  D.statement_of_value (D.value_bind (D.arrive node) fun _ =>
    D.value_bind (D.obeys_eval henter node) fun _ => D.value_pure Flow.normal)

mutual

/-- Running a statement keeps to a discipline, if calls do. -/
theorem obeys_exec (henter : ∀ routine args loc, Obeys (D.value credit) (enter routine args loc))
    {budget : Nat} (hbudget : credit ≤ budget) :
    ∀ node, Obeys (D.statement credit) (exec ctx enter budget node)
  | .sequence statements => obeys_execAll henter hbudget statements
  | .declaration name _ =>
    D.statement_bind (D.statement_of_value (D.arrive _)) fun _ =>
      .get_bind fun m =>
        D.statement_bind (D.statement_of_value (D.note credit (.declared name m.scope))) fun _ =>
          D.statement_bind (D.declare credit name) fun _ => D.statement_pure Flow.normal
  | .ifElse condition thenBranch elseBranch _ =>
    D.statement_bind (D.statement_of_value (D.arrive _)) fun _ =>
      D.statement_bind (D.statement_of_value (D.obeys_holds henter condition)) fun holds => by
        cases holds with
        | true => exact obeys_exec henter hbudget thenBranch
        | false => exact obeys_execElse henter hbudget elseBranch
  | .whileLoop condition body _ =>
    D.statement_bind (D.statement_of_value (D.arrive _)) fun _ =>
      D.obeys_rounds (D.obeys_holds henter condition) (obeys_exec henter hbudget body)
        (D.value_pure ()) hbudget
  | .forLoop init condition step body _ =>
    D.statement_bind (D.statement_of_value (D.arrive _)) fun _ =>
      D.statement_bind (obeys_exec henter hbudget init) fun flow => by
        cases flow with
        | returned value => exact D.statement_pure (Flow.returned value)
        | normal =>
          exact D.obeys_rounds (D.obeys_goesOn henter condition) (obeys_exec henter hbudget body)
            (D.value_bind (D.obeys_eval henter step) fun _ => D.value_pure ()) hbudget
  | .block body _ =>
    D.statement_of_value (D.value_bind (D.arrive _) fun _ =>
      D.inScope (obeys_exec henter hbudget body))
  | .giveBack value _ =>
    D.statement_of_value (D.value_bind (D.arrive _) fun _ =>
      D.value_bind (D.obeys_eval henter value) fun v => D.value_pure (Flow.returned v))
  | .empty => D.obeys_alone henter .empty
  | .literal value loc => D.obeys_alone henter (.literal value loc)
  | .var ref => D.obeys_alone henter (.var ref)
  | .call callee args loc => D.obeys_alone henter (.call callee args loc)
  | .unary op operand loc => D.obeys_alone henter (.unary op operand loc)
  | .binary op left right loc => D.obeys_alone henter (.binary op left right loc)
  | .assignment target value loc => D.obeys_alone henter (.assignment target value loc)
  | .input targets loc => D.obeys_alone henter (.input targets loc)
  | .output items loc => D.obeys_alone henter (.output items loc)
  | .endl loc => D.obeys_alone henter (.endl loc)

/-- Statements run one after the other, until one of them returns. -/
theorem obeys_execAll (henter : ∀ routine args loc, Obeys (D.value credit) (enter routine args loc))
    {budget : Nat} (hbudget : credit ≤ budget) :
    ∀ nodes, Obeys (D.statement credit) (execAll ctx enter budget nodes)
  | [] => D.statement_pure Flow.normal
  | node :: nodes =>
    D.statement_bind (obeys_exec henter hbudget node) fun flow => by
      cases flow with
      | normal => exact obeys_execAll henter hbudget nodes
      | returned value => exact D.statement_pure (Flow.returned value)

/-- A branch that is not there does nothing. -/
theorem obeys_execElse (henter : ∀ routine args loc, Obeys (D.value credit) (enter routine args loc))
    {budget : Nat} (hbudget : credit ≤ budget) :
    ∀ branch, Obeys (D.statement credit) (execElse ctx enter budget branch)
  | none => D.statement_pure Flow.normal
  | some node => obeys_exec henter hbudget node

end

/-! ## Section 5: Calls -/

/-- Parameters are declared and written like the names of declarations. -/
theorem obeys_bindParams :
    ∀ params values, Obeys (D.statement credit) (bindParams params values)
  | param :: params, value :: values =>
    D.statement_bind (D.declare credit param) fun _ =>
      D.statement_bind (D.statement_of_value (D.save credit param value)) fun _ =>
        obeys_bindParams params values
  | [], _ => D.statement_pure ()
  | _ :: _, [] => D.statement_pure ()

/-- The body of a function keeps to a discipline, if the calls in it do. -/
theorem obeys_runBody {budget : Nat} (henter : ∀ routine args loc,
      Obeys (D.value budget) (activate ctx budget routine args loc))
    (routine : Routine) (args : List Int32) (depth : Nat) :
    Obeys (D.value budget) (runBody ctx budget routine args depth) := by
  have hbody : Obeys (D.statement budget) (do
      bindParams routine.params args
      exec ctx (activate ctx budget) budget routine.body) :=
    D.statement_bind (D.obeys_bindParams _ _) fun _ => D.obeys_exec henter (Nat.le_refl budget) _
  exact D.value_bind (D.note budget _) fun _ =>
    D.value_bind (D.inCall routine.name (D.inScope hbody)) fun _ => D.value_pure _

/-- Entering a function, by induction on how deeply calls may be nested. -/
theorem obeys_activate (budget : Nat) (routine : Routine) (args : List Int32) (loc : Location) :
    Obeys (D.value budget) (activate ctx budget routine args loc) := by
  induction budget generalizing routine args loc with
  | zero =>
    rw [activate_zero]
    refine .get_bind fun m => ?_
    split
    · exact D.value_fail rfl
    · exact D.spent
  | succ budget ih =>
    rw [activate_succ]
    refine .get_bind fun m => ?_
    split
    · exact D.value_fail rfl
    · exact D.spend (D.obeys_runBody ih routine args m.callDepth)

/-- Without credit, a call keeps to the discipline whatever the budget is. -/
theorem obeys_enter (budget : Nat) (routine : Routine) (args : List Int32) (loc : Location) :
    Obeys (D.value 0) (activate ctx budget routine args loc) :=
  (D.obeys_activate budget routine args loc).mono (D.value_le (Nat.zero_le budget))

end Discipline
end Stepwise
