import Mathlib.Data.Prod.Lex
import Stepwise.Proofs.Termination

/-!
# The course of an activity

Two things that a run does leave a mark that stays: it adds a record to the trace when it arrives at a
statement, and it takes an integer off the pool when it reads into a variable. Everything else is
quiet. So whatever the trace and the pool show after a run can be followed back to the very points of
the run where it came about.

An activity comes by a machine if it gets there by quiet changes, by one of these two actions, or by
way of an activity that it has begun. It comes by the machine at its end, and by every machine on
which it begins another activity. Activities do not begin each other forever, and so what single
actions keep is kept from the beginning of an activity to every machine that it comes by.

What halts a run says something about the pool or the trace too, and it is true of the machine that is
left behind.

## Main results

* `Activity.comesBy_final`, `Begins.comesBy`: what an activity comes by.
* `ComesBy.keeps`: what quiet changes and marks keep holds wherever an activity comes by.
* `Runner.Visits.keeps`, `Runner.keeps_runWithin`: the same for the points of a run and its end.
* `Runner.trueOf_runWithin`: a halt tells the truth.
-/

namespace Stepwise

open Machine Exec

/-! ## Section 1: The machine after an action -/

section

variable {α β : Type}

/-- What holds of the machine after an action, and after whatever is done next, holds after both. -/
theorem Exec.final_bind {P : Machine → Prop} {x : Exec α} {f : α → Exec β} {m : Machine}
    (hx : P (final (x m))) (hf : ∀ v m₁, x m = .ok v m₁ → P m₁ → P (final (f v m₁))) :
    P (final ((x >>= f) m)) := by
  simp only [bind, EStateM.bind]
  cases hxm : x m with
  | ok v m₁ =>
    rw [hxm] at hx
    exact hf v m₁ hxm hx
  | error halt m₁ =>
    rw [hxm] at hx
    exact hx

theorem Exec.final_of_bind_error {x : Exec α} {f : α → Exec β} {m m₁ : Machine} {halt : Halt}
    (h : x m = .error halt m₁) : final ((x >>= f) m) = m₁ := by
  simp only [bind, EStateM.bind, h]
  rfl

theorem Exec.final_discard (x : Exec α) (m : Machine) :
    final ((do let _ ← x) m) = final (x m) := by
  simp only [bind, EStateM.bind]
  cases x m <;> rfl

theorem Exec.final_of_ok {x : Exec α} {m m₁ : Machine} {v : α} (h : x m = .ok v m₁) :
    final (x m) = m₁ :=
  congrArg final h

/-- What is done in a new scope is done between its creation and its release. -/
theorem Exec.final_inScope (x : Exec α) (m : Machine) :
    final (inScope x m) = (final (x m.inside)).closed m.scope := by
  rw [inScope_apply, final_andThen, bind_of_ok (note_apply _ _)]
  rfl

end

/-! ## Section 2: Quiet changes -/

/-- A change that adds no record and takes no integer. More may have been printed and more steps may
have been counted. -/
structure Machine.Quiet (m m' : Machine) : Prop where
  history : m'.history = m.history
  pool : m'.pool = m.pool
  grown : m.Grown m'

namespace Machine.Quiet

variable {m m' m'' : Machine}

theorem refl (m : Machine) : m.Quiet m :=
  ⟨rfl, rfl, .refl m⟩

theorem trans (h : m.Quiet m') (h' : m'.Quiet m'') : m.Quiet m'' :=
  ⟨h'.history.trans h.history, h'.pool.trans h.pool, h.grown.trans h'.grown⟩

/-- A change of anything but the trace, the pool, the output and the steps. -/
theorem of_eq (hhistory : m'.history = m.history) (hpool : m'.pool = m.pool)
    (houtput : m'.output = m.output) (hsteps : m'.steps = m.steps) : m.Quiet m' :=
  ⟨hhistory, hpool, houtput ▸ List.prefix_rfl, Nat.le_of_eq hsteps.symm⟩

end Machine.Quiet

theorem quiet_tick (ctx : Context) (m : Machine) : m.Quiet (final (tick ctx m)) := by
  rw [final_tick]
  exact ⟨rfl, rfl, List.prefix_rfl, Nat.le_succ _⟩

theorem quiet_putByte (byte : UInt8) (m : Machine) :
    m.Quiet (final (print (·.putByte byte) m)) :=
  ⟨rfl, rfl, grows_putByte byte m⟩

theorem quiet_putInt (value : Int32) (m : Machine) :
    m.Quiet (final (print (·.putInt value) m)) :=
  ⟨rfl, rfl, grows_putInt value m⟩

theorem quiet_bindParams (params : List String) (args : List Int32) (m : Machine) :
    m.Quiet (final (bindParams params args m)) := by
  induction params generalizing args m with
  | nil => exact .refl m
  | cons param params ih =>
    cases args with
    | nil => exact .refl m
    | cons value args =>
      rw [bindParams]
      refine final_bind (.of_eq rfl rfl rfl rfl) fun _ m₁ _ hm₁ => ?_
      refine final_bind (hm₁.trans (.of_eq rfl rfl rfl rfl)) fun _ m₂ _ hm₂ => ?_
      exact hm₂.trans (ih args m₂)

/-! ## Section 3: What an activity comes by -/

/-- Reads the next integer into the variable of this key. -/
def Exec.deliver (loc : Location) (key : String) : Exec Unit := do
  let value ← next loc
  save key value

/-- The next integer is taken off the pool, or there is none and the run halts. -/
theorem next_cases (loc : Location) (m : Machine) :
    (m.pool.rest = [] ∧
      next loc m = .error (.fault (.inputExhausted m.pool.consumed loc)) m) ∨
    ∃ value rest, m.pool.rest = value :: rest ∧
      next loc m = .ok value { m with pool := ⟨rest, m.pool.consumed + 1⟩ } := by
  cases hrest : m.pool.rest with
  | nil => exact .inl ⟨rfl, by simp only [next, Pool.next?, hrest]⟩
  | cons value rest => exact .inr ⟨value, rest, rfl, by simp only [next, Pool.next?, hrest]⟩

/-- What reading into a variable does: the next integer goes from the pool to the store, or there is
none and the run halts. -/
theorem deliver_cases (loc : Location) (key : String) (m : Machine) :
    (∃ halt, deliver loc key m = .error halt m) ∨
    ∃ value rest, next loc m = .ok value { m with pool := ⟨rest, m.pool.consumed + 1⟩ } ∧
      deliver loc key m = .ok () { m with
        pool := ⟨rest, m.pool.consumed + 1⟩, store := m.store.set m.scope key value } := by
  rcases next_cases loc m with ⟨-, hnext⟩ | ⟨value, rest, -, hnext⟩
  · refine .inl ⟨.fault (.inputExhausted m.pool.consumed loc), ?_⟩
    simp only [deliver, bind, EStateM.bind, hnext]
  · refine .inr ⟨value, rest, hnext, ?_⟩
    rw [deliver, bind_of_ok hnext]
    rfl

/-- Arriving at a statement is taking over its place, a step and a record. -/
theorem arrive_eq (ctx : Context) (node : Node) (m : Machine) :
    arrive ctx node m =
      (do tick ctx; record node.label) { m with loc := node.loc?.getD m.loc } := by
  unfold arrive
  cases node.loc? <;> rfl

/-- The two actions that leave a mark: a statement is arrived at, and a variable is read into. -/
inductive Marks (ctx : Context) : Activity → Machine → Machine → Prop where
  | arrive {b : Nat} {node : Node} {m : Machine} (hnode : ∀ nodes, node ≠ .sequence nodes) :
      Marks ctx ⟨b, .statement node, m⟩ m (final (arrive ctx node m))
  | deliver {b : Nat} {loc : Location} {target : Reference Node} {targets : List (Reference Node)}
      {key : String} {m m₁ : Machine} (hslot : slot ctx (activate ctx b) target m = .ok key m₁) :
      Marks ctx ⟨b, .input loc (target :: targets), m⟩ m₁ (final (deliver loc key m₁))

/-- The activity `a`, on its way, comes by a machine. -/
inductive ComesBy (ctx : Context) (a : Activity) : Machine → Prop where
  | start : ComesBy ctx a a.machine
  | quiet {m m' : Machine} (h : ComesBy ctx a m) (hquiet : m.Quiet m') : ComesBy ctx a m'
  | marks {m m' : Machine} (h : ComesBy ctx a m) (hmarks : Marks ctx a m m') : ComesBy ctx a m'
  | begun {c : Activity} (h : ComesBy ctx a c.machine) (hc : Begins ctx a c) :
      ComesBy ctx a (c.final ctx)

theorem final_holds (ctx : Context) (enter : Enter) (condition : Node) (m : Machine) :
    final (holds ctx enter condition m) = final (eval ctx enter condition m) := by
  simp only [holds, bind, EStateM.bind]
  cases eval ctx enter condition m <;> rfl

/-- What entering a function does after its step has been counted. -/
theorem final_runBody (ctx : Context) (budget : Nat) (routine : Routine) (args : List Int32)
    (m : Machine) :
    final (runBody ctx budget routine args m.callDepth m) =
      ((final ((do
        bindParams routine.params args
        exec ctx (activate ctx budget) budget routine.body) (m.insideCall routine args))).closed
          m.scope).returned m.routine := by
  unfold runBody
  rw [bind_of_ok (note_apply _ m)]
  generalize hcall : inCall routine.name _ = call
  have hfinal : final ((do let flow ← call; return flow.value : Exec Int32)
      (m.noted (.called routine.name args (m.callDepth + 1)))) =
      final (call (m.noted (.called routine.name args (m.callDepth + 1)))) := by
    simp only [bind, EStateM.bind]
    cases call (m.noted (.called routine.name args (m.callDepth + 1))) <;> rfl
  rw [hfinal, ← hcall, inCall_apply, final_andThen, final_inScope]
  rfl

namespace ComesBy

variable {ctx : Context} {a : Activity} {α : Type}

/-- The machine after an activity that has been begun for its value. -/
theorem value {c : Activity} {x : Exec α} (h : ComesBy ctx a c.machine) (hc : Begins ctx a c)
    (hx : c.task.action ctx c.budget = (do let _ ← x)) : ComesBy ctx a (final (x c.machine)) := by
  have hbegun := h.begun hc
  unfold Activity.final at hbegun
  rwa [hx, final_discard] at hbegun

/-- The same if the activity is known to have given a value. -/
theorem value_of_ok {c : Activity} {x : Exec α} (h : ComesBy ctx a c.machine) (hc : Begins ctx a c)
    (hx : c.task.action ctx c.budget = (do let _ ← x)) {v : α} {m₁ : Machine}
    (hok : x c.machine = .ok v m₁) : ComesBy ctx a m₁ := by
  have hvalue := h.value hc hx
  rwa [final_of_ok hok] at hvalue

/-- The same for the first activity that is begun. -/
theorem first_of_ok {b b' : Nat} {task task' : Task} {x : Exec α} {v : α} {m m₁ : Machine}
    (hc : Begins ctx ⟨b, task, m⟩ ⟨b', task', m⟩) (hx : task'.action ctx b' = (do let _ ← x))
    (hok : x m = .ok v m₁) : ComesBy ctx ⟨b, task, m⟩ m₁ := by
  have hstart : ComesBy ctx ⟨b, task, m⟩ m := .start
  exact hstart.value_of_ok hc hx hok

theorem quiet_of_eq {m m' : Machine} (h : ComesBy ctx a m) (hhistory : m'.history = m.history)
    (hpool : m'.pool = m.pool) (houtput : m'.output = m.output) (hsteps : m'.steps = m.steps) :
    ComesBy ctx a m' :=
  h.quiet (.of_eq hhistory hpool houtput hsteps)

end ComesBy

/-! ## Section 4: The end of an activity -/

section

variable {ctx : Context} {b : Nat} {m : Machine}

/-- Where the evaluation of an expression ends. -/
theorem comesBy_eval (node : Node) :
    ComesBy ctx ⟨b, .value node, m⟩ (final (eval ctx (activate ctx b) node m)) := by
  have hstart : ComesBy ctx ⟨b, .value node, m⟩ m := .start
  cases node with
  | empty | endl | literal => exact hstart
  | sequence | declaration | ifElse | whileLoop | forLoop | giveBack | block => exact hstart
  | var ref =>
    rw [eval]
    exact final_bind (hstart.value .var rfl) fun key m₁ _ hm₁ => hm₁
  | assignment target value loc =>
    rw [eval]
    refine final_bind (hstart.value .assigned rfl) fun v m₁ hvalue hm₁ => ?_
    refine final_bind (hm₁.value (.target hvalue) rfl) fun key m₂ _ hm₂ => ?_
    exact hm₂.quiet_of_eq rfl rfl rfl rfl
  | unary op operand loc =>
    rw [eval]
    exact final_bind (hstart.value .operand rfl) fun v m₁ _ hm₁ => hm₁
  | binary op left right loc =>
    rw [eval]
    refine final_bind (hstart.value .left rfl) fun x m₁ hleft hm₁ => ?_
    refine final_bind (hm₁.value (.right hleft) rfl) fun y m₂ _ hm₂ => ?_
    cases op.apply? x y <;> exact hm₂
  | input targets loc =>
    rw [eval]
    exact final_bind (hstart.begun .input) fun _ m₁ _ hm₁ => hm₁
  | output items loc =>
    rw [eval]
    exact final_bind (hstart.begun .output) fun _ m₁ _ hm₁ => hm₁
  | call callee args loc =>
    -- A byte is printed, a function is called, or the call is refused where it stands.
    rcases eval_call_cases ctx (activate ctx b) callee args loc with
      ⟨arg, rfl, rfl⟩ | ⟨routine, hname, hfind, hcount⟩ | ⟨fault, -, hrefused⟩
    · rw [eval_putchar]
      refine final_bind (hstart.value .byte rfl) fun v m₁ _ hm₁ => ?_
      exact hm₁.quiet (quiet_putByte _ m₁)
    · rw [eval_call hname hfind hcount]
      refine final_bind (hstart.value (.args hname hfind hcount) rfl) fun values m₁ hargs hm₁ => ?_
      exact hm₁.value (.enter hname hfind hcount hargs) rfl
    · rw [hrefused]
      exact hstart

theorem comesBy_evalAll (nodes : List Node) :
    ComesBy ctx ⟨b, .values nodes, m⟩ (final (evalAll ctx (activate ctx b) nodes m)) := by
  have hstart : ComesBy ctx ⟨b, .values nodes, m⟩ m := .start
  cases nodes with
  | nil => exact hstart
  | cons node nodes =>
    rw [evalAll]
    refine final_bind (hstart.value .head rfl) fun v m₁ hnode hm₁ => ?_
    exact final_bind (hm₁.value (.tail hnode) rfl) fun vs m₂ _ hm₂ => hm₂

theorem comesBy_slot (ref : Reference Node) :
    ComesBy ctx ⟨b, .slot ref, m⟩ (final (slot ctx (activate ctx b) ref m)) := by
  have hstart : ComesBy ctx ⟨b, .slot ref, m⟩ m := .start
  obtain ⟨name, indices, loc⟩ := ref
  rw [slot]
  exact final_bind (hstart.value .indices rfl) fun values m₁ _ hm₁ => hm₁

theorem comesBy_readAll (loc : Location) (targets : List (Reference Node)) :
    ComesBy ctx ⟨b, .input loc targets, m⟩ (final (readAll ctx (activate ctx b) loc targets m)) := by
  have hstart : ComesBy ctx ⟨b, .input loc targets, m⟩ m := .start
  cases targets with
  | nil => exact hstart
  | cons target targets =>
    rw [readAll]
    refine final_bind (hstart.value .inputTarget rfl) fun key m₁ hslot hm₁ => ?_
    -- The integer is taken and written before the next variable is looked at.
    have hmarked := hm₁.marks (.deliver hslot)
    cases hnext : next loc m₁ with
    | error halt m₂ =>
      rw [deliver, final_of_bind_error hnext] at hmarked
      rw [final_of_bind_error hnext]
      exact hmarked
    | ok v m₂ =>
      rw [deliver, bind_of_ok hnext] at hmarked
      rw [bind_of_ok hnext]
      exact hmarked.begun (.inputMore hslot hnext rfl)

theorem comesBy_printAll (items : List Node) :
    ComesBy ctx ⟨b, .output items, m⟩ (final (printAll ctx (activate ctx b) items m)) := by
  have hstart : ComesBy ctx ⟨b, .output items, m⟩ m := .start
  cases items with
  | nil => exact hstart
  | cons item items =>
    by_cases hendl : ∃ loc, item = .endl loc
    · obtain ⟨loc, rfl⟩ := hendl
      rw [printAll]
      refine final_bind (hstart.quiet (quiet_putByte 10 m)) fun _ m₁ hprint hm₁ => ?_
      exact hm₁.begun (.outputNewline hprint)
    · have hitem : ∀ loc, item ≠ .endl loc := fun loc h => hendl ⟨loc, h⟩
      rw [printAll_cons_of_ne_endl hitem]
      refine final_bind (hstart.value (.outputItem hitem) rfl) fun v m₁ hvalue hm₁ => ?_
      refine final_bind (hm₁.quiet (quiet_putInt v m₁)) fun _ m₂ hprint hm₂ => ?_
      exact hm₂.begun (.outputMore hitem hvalue hprint)

/-- Where a statement that has been arrived at goes on. -/
theorem final_arrive_bind {α : Type} {node : Node} (hnode : ∀ nodes, node ≠ .sequence nodes)
    {f : Unit → Exec α} (hf : ∀ m₁, arrive ctx node m = .ok () m₁ →
      ComesBy ctx ⟨b, .statement node, m⟩ m₁ → ComesBy ctx ⟨b, .statement node, m⟩ (final (f () m₁))) :
    ComesBy ctx ⟨b, .statement node, m⟩ (final ((arrive ctx node >>= f) m)) :=
  final_bind (ComesBy.start.marks (.arrive hnode)) fun _ m₁ h hm₁ => hf m₁ h hm₁

theorem comesBy_exec (node : Node) :
    ComesBy ctx ⟨b, .statement node, m⟩ (final (exec ctx (activate ctx b) b node m)) := by
  have hstart : ComesBy ctx ⟨b, .statement node, m⟩ m := .start
  -- All expressions that stand as statements do the same: they arrive, and then give a value.
  have halone : node.standsAlone = true → (∀ nodes, node ≠ .sequence nodes) →
      ComesBy ctx ⟨b, .statement node, m⟩ (final (exec ctx (activate ctx b) b node m)) := by
    intro hnode hsequence
    rw [exec_of_standsAlone hnode]
    refine final_arrive_bind hsequence fun m₁ harrive hm₁ => ?_
    exact final_bind (hm₁.value (.alone hnode harrive) rfl) fun _ m₂ _ hm₂ => hm₂
  cases node with
  | sequence nodes =>
    rw [exec]
    exact hstart.value .sequence rfl
  | declaration name loc =>
    rw [exec]
    refine final_arrive_bind (by simp) fun m₁ harrive hm₁ => ?_
    exact hm₁.quiet_of_eq rfl rfl rfl rfl
  | ifElse condition thenBranch elseBranch loc =>
    rw [exec]
    refine final_arrive_bind (by simp) fun m₁ harrive hm₁ => ?_
    have hcondition := hm₁.value (.condition harrive) rfl
    rw [← final_holds] at hcondition
    refine final_bind hcondition fun holds m₂ hholds hm₂ => ?_
    cases holds with
    | true =>
      -- Only the branch that is taken is begun.
      exact hm₂.value (.thenBranch harrive hholds) rfl
    | false => exact hm₂.value (.elseBranch harrive hholds) rfl
  | whileLoop condition body loc =>
    rw [exec]
    refine final_arrive_bind (by simp) fun m₁ harrive hm₁ => ?_
    exact hm₁.value (.whileLoop harrive) rfl
  | forLoop init condition step body loc =>
    rw [exec]
    refine final_arrive_bind (by simp) fun m₁ harrive hm₁ => ?_
    refine final_bind (hm₁.value (.init harrive) rfl) fun flow m₂ hinit hm₂ => ?_
    cases flow with
    | returned value => exact hm₂
    | normal =>
      -- The task asks for no condition where the header leaves it out; the code holds it for true.
      have hloop := hm₂.begun (.forLoop harrive hinit)
      unfold Activity.final at hloop
      rw [Task.action, final_discard, loopCondition_forCondition] at hloop
      exact hloop
  | block body loc =>
    rw [exec]
    refine final_arrive_bind (by simp) fun m₁ harrive hm₁ => ?_
    rw [final_inScope]
    -- To enter a scope and to leave it are quiet changes.
    have hinside : ComesBy ctx _ m₁.inside := hm₁.quiet_of_eq rfl rfl rfl rfl
    exact (hinside.value (.block harrive) rfl).quiet_of_eq rfl rfl rfl rfl
  | giveBack value loc =>
    rw [exec]
    refine final_arrive_bind (by simp) fun m₁ harrive hm₁ => ?_
    exact final_bind (hm₁.value (.giveBack harrive) rfl) fun _ m₂ _ hm₂ => hm₂
  | _ => exact halone rfl (by simp)

theorem comesBy_execAll (nodes : List Node) :
    ComesBy ctx ⟨b, .statements nodes, m⟩ (final (execAll ctx (activate ctx b) b nodes m)) := by
  have hstart : ComesBy ctx ⟨b, .statements nodes, m⟩ m := .start
  cases nodes with
  | nil => exact hstart
  | cons node nodes =>
    rw [execAll]
    refine final_bind (hstart.value .first rfl) fun flow m₁ hnode hm₁ => ?_
    cases flow with
    | normal => exact hm₁.value (.rest hnode) rfl
    | returned value => exact hm₁

theorem comesBy_execElse (branch : Option Node) :
    ComesBy ctx ⟨b, .branch branch, m⟩ (final (execElse ctx (activate ctx b) b branch m)) := by
  have hstart : ComesBy ctx ⟨b, .branch branch, m⟩ m := .start
  cases branch with
  | none => exact hstart
  | some node =>
    rw [execElse]
    exact hstart.value .branch rfl

/-- Where the condition of a loop ends. -/
theorem comesBy_loopCondition (condition : Option Node) {body : Node} {step : Option Node} {k : Nat} :
    ComesBy ctx ⟨b, .loop condition body step k, m⟩
      (final (loopCondition ctx (activate ctx b) condition m)) := by
  have hstart : ComesBy ctx ⟨b, .loop condition body step k, m⟩ m := .start
  cases condition with
  | none => exact hstart
  | some condition =>
    rw [loopCondition, final_holds]
    exact hstart.value .test rfl

/-- Where the step of a loop ends. -/
theorem comesBy_loopStep {condition : Option Node} {body : Node} {step : Option Node} {k : Nat}
    {m₁ m₂ m₃ : Machine} (hcondition : loopCondition ctx (activate ctx b) condition m = .ok true m₁)
    (htick : tick ctx m₁ = .ok () m₂)
    (hbody : exec ctx (activate ctx b) b body m₂ = .ok .normal m₃)
    (h : ComesBy ctx ⟨b, .loop condition body step (k + 1), m⟩ m₃) :
    ComesBy ctx ⟨b, .loop condition body step (k + 1), m⟩
      (final (loopStep ctx (activate ctx b) step m₃)) := by
  cases step with
  | none => exact h
  | some step =>
    rw [loopStep, final_discard]
    exact h.value (.step hcondition htick hbody) rfl

theorem comesBy_rounds (condition : Option Node) (body : Node) (step : Option Node) (k : Nat) :
    ComesBy ctx ⟨b, .loop condition body step k, m⟩
      (final (rounds ctx (loopCondition ctx (activate ctx b) condition)
        (exec ctx (activate ctx b) b body) (loopStep ctx (activate ctx b) step) k m)) := by
  cases k with
  | zero =>
    refine final_bind (comesBy_loopCondition condition) fun holds m₁ hcondition hm₁ => ?_
    cases holds with
    | false => exact hm₁
    | true => exact final_bind (hm₁.quiet (quiet_tick ctx m₁)) fun _ m₂ _ hm₂ => hm₂
  | succ k =>
    refine final_bind (comesBy_loopCondition condition) fun holds m₁ hcondition hm₁ => ?_
    cases holds with
    | false => exact hm₁
    | true =>
      refine final_bind (hm₁.quiet (quiet_tick ctx m₁)) fun _ m₂ htick hm₂ => ?_
      refine final_bind (hm₂.value (.round hcondition htick) rfl) fun flow m₃ hbody hm₃ => ?_
      cases flow with
      | returned value => exact hm₃
      | normal =>
        refine final_bind (comesBy_loopStep hcondition htick hbody hm₃) fun _ m₄ hstep hm₄ => ?_
        exact hm₄.value (.again hcondition htick hbody hstep) rfl

/-- Where a call ends. -/
theorem comesBy_activate (routine : Routine) (args : List Int32) (loc : Location) :
    ComesBy ctx ⟨b, .call routine args loc, m⟩
      (final (activate ctx b routine args loc m)) := by
  have hstart : ComesBy ctx ⟨b, .call routine args loc, m⟩ m := .start
  cases b with
  | zero =>
    rw [activate_zero, get_bind_apply]
    split
    · exact hstart
    · exact final_bind (hstart.quiet (quiet_tick ctx m)) fun _ m₁ _ hm₁ => hm₁
  | succ b =>
    rw [activate_succ, get_bind_apply]
    split
    · exact hstart
    · next hdepth =>
      -- The call is entered: its step is counted, its parameters are bound, and then its body begins.
      refine final_bind (hstart.quiet (quiet_tick ctx m)) fun _ m₁ htick hm₁ => ?_
      have hcallDepth : m.callDepth = m₁.callDepth := by rw [eq_of_tick htick]
      rw [hcallDepth, final_runBody]
      have hinside : ComesBy ctx _ (m₁.insideCall routine args) :=
        hm₁.quiet_of_eq rfl rfl rfl rfl
      have hbody : ComesBy ctx ⟨b + 1, .call routine args loc, m⟩ (final ((do
          bindParams routine.params args
          exec ctx (activate ctx b) b routine.body) (m₁.insideCall routine args))) := by
        refine final_bind (hinside.quiet (quiet_bindParams _ _ _)) fun _ m₂ hparams hm₂ => ?_
        exact hm₂.value (.body (Nat.not_lt.mp hdepth) htick hparams) rfl
      exact hbody.quiet_of_eq rfl rfl rfl rfl

end

/-- An activity comes by the machine at its end. -/
theorem Activity.comesBy_final (ctx : Context) (a : Activity) : ComesBy ctx a (a.final ctx) := by
  obtain ⟨b, task, m⟩ := a
  unfold Activity.final
  cases task with
  | value node => rw [Task.action, final_discard]; exact comesBy_eval node
  | values nodes => rw [Task.action, final_discard]; exact comesBy_evalAll nodes
  | slot ref => rw [Task.action, final_discard]; exact comesBy_slot ref
  | input loc targets => exact comesBy_readAll loc targets
  | output items => exact comesBy_printAll items
  | statement node => rw [Task.action, final_discard]; exact comesBy_exec node
  | statements nodes => rw [Task.action, final_discard]; exact comesBy_execAll nodes
  | branch node => rw [Task.action, final_discard]; exact comesBy_execElse node
  | loop condition body step k =>
    rw [Task.action, final_discard]
    exact comesBy_rounds condition body step k
  | call routine args loc => rw [Task.action, final_discard]; exact comesBy_activate routine args loc

/-! ## Section 5: The beginning of an activity -/

section

variable {ctx : Context} {b : Nat} {m m₁ m₂ : Machine}

/-- A statement comes by the machine on which it has been arrived at. -/
theorem comesBy_arrived {node : Node} (hnode : ∀ nodes, node ≠ .sequence nodes)
    (harrive : arrive ctx node m = .ok () m₁) : ComesBy ctx ⟨b, .statement node, m⟩ m₁ := by
  have hstart : ComesBy ctx ⟨b, .statement node, m⟩ m := .start
  have hmarked := hstart.marks (.arrive hnode)
  rwa [final_of_ok harrive] at hmarked

/-- Where the condition of a branching has given its value. -/
theorem comesBy_held {condition thenBranch : Node} {elseBranch : Option Node} {loc : Location}
    {v : Bool} (harrive : arrive ctx (.ifElse condition thenBranch elseBranch loc) m = .ok () m₁)
    (hcondition : holds ctx (activate ctx b) condition m₁ = .ok v m₂) :
    ComesBy ctx ⟨b, .statement (.ifElse condition thenBranch elseBranch loc), m⟩ m₂ := by
  have hm₁ : ComesBy ctx ⟨b, _, m⟩ m₁ := comesBy_arrived (by nofun) harrive
  have hholds := hm₁.value (.condition harrive) rfl
  rwa [← final_holds, final_of_ok hcondition] at hholds

/-- Where a round of a loop has been counted. -/
theorem comesBy_counted {condition step : Option Node} {body : Node} {k : Nat}
    (hcondition : loopCondition ctx (activate ctx b) condition m = .ok true m₁)
    (htick : tick ctx m₁ = .ok () m₂) : ComesBy ctx ⟨b, .loop condition body step k, m⟩ m₂ := by
  have hm₁ : ComesBy ctx ⟨b, .loop condition body step k, m⟩ _ := comesBy_loopCondition condition
  rw [final_of_ok hcondition] at hm₁
  have hm₂ := hm₁.quiet (quiet_tick ctx m₁)
  rwa [final_of_ok htick] at hm₂

/-- Where the body of a loop has been run. -/
theorem comesBy_ran {condition step : Option Node} {body : Node} {k : Nat} {m₃ : Machine}
    (hcondition : loopCondition ctx (activate ctx b) condition m = .ok true m₁)
    (htick : tick ctx m₁ = .ok () m₂)
    (hbody : exec ctx (activate ctx b) b body m₂ = .ok .normal m₃) :
    ComesBy ctx ⟨b, .loop condition body step (k + 1), m⟩ m₃ := by
  have hm₂ : ComesBy ctx ⟨b, .loop condition body step (k + 1), m⟩ m₂ :=
    comesBy_counted hcondition htick
  exact hm₂.value_of_ok (.round hcondition htick) rfl hbody

end

/-- An activity comes by every machine on which it begins another one. -/
theorem Begins.comesBy {ctx : Context} {a c : Activity} (h : Begins ctx a c) :
    ComesBy ctx a c.machine := by
  cases h with
  | var | assigned | operand | left | byte | args | input | output | head | indices | inputTarget
  | outputItem | sequence | first | branch | test => exact .start
  | target hvalue =>
    -- What follows a value is begun on the machine that the value leaves.
    exact .first_of_ok .assigned rfl hvalue
  | right hleft => exact .first_of_ok .left rfl hleft
  | enter hname hfind hcount hargs => exact .first_of_ok (.args hname hfind hcount) rfl hargs
  | tail hnode => exact .first_of_ok .head rfl hnode
  | @inputMore b m m₁ m₂ m₃ loc target targets key v hslot hnext hsave =>
    have hm₁ : ComesBy ctx ⟨b, .input loc (target :: targets), m⟩ m₁ :=
      .first_of_ok .inputTarget rfl hslot
    -- To take an integer and to keep it in its variable is one marked change.
    have hmarked := hm₁.marks (.deliver hslot)
    rwa [deliver, bind_of_ok hnext, final_of_ok hsave] at hmarked
  | @outputMore b m m₁ m₂ item items v hitem hvalue hprint =>
    have hm₁ : ComesBy ctx ⟨b, .output (item :: items), m⟩ m₁ :=
      .first_of_ok (.outputItem hitem) rfl hvalue
    have hprinted := hm₁.quiet (quiet_putInt v m₁)
    rwa [final_of_ok hprint] at hprinted
  | @outputNewline b m m₁ loc items hprint =>
    have hstart : ComesBy ctx ⟨b, .output (.endl loc :: items), m⟩ m := .start
    cases hprint
    exact hstart.quiet (quiet_putByte 10 m)
  | condition harrive | whileLoop harrive | init harrive | giveBack harrive =>
    exact comesBy_arrived (by nofun) harrive
  | alone hnode harrive =>
    refine comesBy_arrived ?_ harrive
    rintro nodes rfl
    cases hnode
  | thenBranch harrive hcondition => exact comesBy_held harrive hcondition
  | elseBranch harrive hcondition => exact comesBy_held harrive hcondition
  | forLoop harrive hinit =>
    exact (comesBy_arrived (by nofun) harrive).value_of_ok (.init harrive) rfl hinit
  | block harrive => exact (comesBy_arrived (by nofun) harrive).quiet_of_eq rfl rfl rfl rfl
  | rest hnode => exact .first_of_ok .first rfl hnode
  | round hcondition htick => exact comesBy_counted hcondition htick
  | step hcondition htick hbody => exact comesBy_ran hcondition htick hbody
  | @again b k m m₁ m₂ m₃ m₄ condition body step hcondition htick hbody hstep =>
    have hm₃ : ComesBy ctx ⟨b, .loop condition body step (k + 1), m⟩ m₃ :=
      comesBy_ran hcondition htick hbody
    have hm₄ := comesBy_loopStep hcondition htick hbody hm₃
    rwa [final_of_ok hstep] at hm₄
  | @body b m m₁ m₂ loc routine args hdepth htick hparams =>
    have hstart : ComesBy ctx ⟨b + 1, .call routine args loc, m⟩ m := .start
    have hm₁ := hstart.quiet (quiet_tick ctx m)
    rw [final_of_ok htick] at hm₁
    have hinside : ComesBy ctx _ (m₁.insideCall routine args) :=
      hm₁.quiet_of_eq rfl rfl rfl rfl
    have hm₂ := hinside.quiet (quiet_bindParams routine.params args _)
    rwa [final_of_ok hparams] at hm₂

/-! ## Section 6: Activities do not begin each other forever -/

/-- What is left to do of a task besides its part of the tree: the rounds of a loop, and for a statement
all the rounds that it may begin. -/
def Task.pending (budget : Nat) : Task → Nat
  | loop _ _ _ left => left
  | statement _ => budget + 1
  | _ => 0

/-- How far an activity is from its end: by its budget, then by the part of the tree that it is about,
then by its rounds. -/
noncomputable def Activity.rank (a : Activity) : Nat ×ₗ (Nat ×ₗ Nat) :=
  toLex (a.budget, toLex (a.task.size, a.task.pending a.budget))

theorem Activity.rank_lt_of_size_lt {b : Nat} {task task' : Task} {m m' : Machine}
    (h : task'.size < task.size) : rank ⟨b, task', m'⟩ < rank ⟨b, task, m⟩ :=
  Prod.Lex.toLex_lt_toLex.mpr (.inr ⟨rfl, Prod.Lex.toLex_lt_toLex.mpr (.inl h)⟩)

theorem Activity.rank_lt_of_pending_lt {b : Nat} {task task' : Task} {m m' : Machine}
    (hsize : task'.size ≤ task.size) (h : task'.pending b < task.pending b) :
    rank ⟨b, task', m'⟩ < rank ⟨b, task, m⟩ := by
  rcases Nat.lt_or_eq_of_le hsize with hlt | heq
  · exact rank_lt_of_size_lt hlt
  · exact Prod.Lex.toLex_lt_toLex.mpr (.inr ⟨rfl, Prod.Lex.toLex_lt_toLex.mpr (.inr ⟨heq, h⟩)⟩)

theorem sizeOf_option_pos (node : Option Node) : 0 < sizeOf node := by
  cases node with
  | none => rw [Option.none.sizeOf_spec]; omega
  | some node => rw [Option.some.sizeOf_spec]; omega

theorem sizeOf_loc_pos (loc : Location) : 0 < sizeOf loc := by
  cases loc
  rw [Location.mk.sizeOf_spec]
  omega

theorem sizeOf_forCondition_le (condition : Node) :
    sizeOf (forCondition condition) ≤ 1 + sizeOf condition := by
  unfold forCondition
  split <;> simp

/-- What is begun is nearer to its end. -/
theorem Begins.rank_lt {ctx : Context} {a c : Activity} (h : Begins ctx a c) : c.rank < a.rank := by
  cases h with
  | body => exact Prod.Lex.toLex_lt_toLex.mpr (.inl (Nat.lt_succ_self _))
  | again => exact Activity.rank_lt_of_pending_lt (Nat.le_refl _) (Nat.lt_succ_self _)
  -- An expression that stands as a statement is the same part of the tree.
  | alone => exact Activity.rank_lt_of_pending_lt (Nat.le_refl _) (Nat.succ_pos _)
  -- A loop has the parts of its statement, and fewer rounds to come.
  | @whileLoop b m m₁ loc condition body harrive =>
    refine Activity.rank_lt_of_pending_lt ?_ (Nat.lt_succ_self _)
    have hloc := sizeOf_loc_pos loc
    simp only [Task.size, Node.whileLoop.sizeOf_spec, Option.some.sizeOf_spec, Option.none.sizeOf_spec]
    omega
  | @forLoop b m m₁ m₂ loc init condition step body harrive hinit =>
    refine Activity.rank_lt_of_pending_lt ?_ (Nat.lt_succ_self _)
    have hloc := sizeOf_loc_pos loc
    have hcondition := sizeOf_forCondition_le condition
    simp only [Task.size, Node.forLoop.sizeOf_spec, Option.some.sizeOf_spec]
    omega
  | @round b k m m₁ m₂ condition body step hcondition htick =>
    refine Activity.rank_lt_of_size_lt ?_
    have hpos := sizeOf_option_pos condition
    simp only [Task.size]
    omega
  | _ =>
    refine Activity.rank_lt_of_size_lt ?_
    simp [Task.size] <;> omega

theorem Begins.wellFounded (ctx : Context) : WellFounded fun c a => Begins ctx a c :=
  Subrelation.wf (fun h => h.rank_lt) (InvImage.wf Activity.rank wellFounded_lt)

/-! ## Section 7: What all that activities do keeps -/

/-- What is true of a machine stays true under quiet changes and under the marks that the activities of
a kind leave, and what activities of that kind begin is again of that kind. -/
structure Keeps (ctx : Context) (V : Activity → Prop) (P : Machine → Prop) : Prop where
  begins {a c : Activity} (ha : V a) (hc : Begins ctx a c) : V c
  quiet {m m' : Machine} (hm : P m) (h : m.Quiet m') : P m'
  marks {a : Activity} {m m' : Machine} (ha : V a) (hm : P m) (h : Marks ctx a m m') : P m'

/-- It holds wherever such an activity comes by. The induction is on the activity, since one that has
been begun is looked at from its beginning to its end. -/
theorem ComesBy.keeps {ctx : Context} {V : Activity → Prop} {P : Machine → Prop}
    (hP : Keeps ctx V P) {a : Activity} (ha : V a) (hstart : P a.machine) {m : Machine}
    (h : ComesBy ctx a m) : P m := by
  induction a using (Begins.wellFounded ctx).induction generalizing m with
  | _ a ih =>
    induction h with
    | start => exact hstart
    | quiet _ hquiet hm => exact hP.quiet hm hquiet
    | marks _ hmarks hm => exact hP.marks ha hm hmarks
    | begun _ hc hm => exact ih _ hc (hP.begins ha hc) hm (Activity.comesBy_final ctx _)

namespace Runner

/-- What an activity of a run begins is an activity of the run. -/
theorem Visits.begins {r : Runner} {budget : Nat} {a c : Activity} (h : r.Visits budget a)
    (hc : Begins r.context a c) : r.Visits budget c := by
  obtain ⟨start, calls, hstart, hreaches⟩ := h
  exact ⟨start, _, hstart, hreaches.begins hc⟩

/-- What has been run is run no differently if more follows. -/
theorem runGlobals_append {ctx : Context} {budget : Nat} {before after : List Node} {m m' : Machine}
    (h : runGlobals ctx budget before m = .ok () m') :
    runGlobals ctx budget (before ++ after) m = runGlobals ctx budget after m' := by
  induction before generalizing m with
  | nil =>
    cases h
    rfl
  | cons node before ih =>
    rw [runGlobals] at h
    obtain ⟨flow, m₁, hnode, hbefore⟩ := exists_of_bind_eq_ok h
    rw [List.cons_append, runGlobals, bind_of_ok hnode]
    exact ih hbefore

section

variable {r : Runner} {budget : Nat} {P : Machine → Prop}
  (hP : Keeps r.context (r.Visits budget) P) (hr : P r.machine)

include hP

theorem Visits.keeps_final {a : Activity} (h : r.Visits budget a) (ha : P a.machine) :
    P (a.final r.context) :=
  (a.comesBy_final r.context).keeps hP h ha

/-- It holds after some of the globals, if it holds before them. -/
theorem keeps_runGlobals_from {main : Routine} (hmain : r.program.find? mainName = some main)
    (before nodes after : List Node) {m : Machine}
    (hglobals : r.program.globals = before ++ (nodes ++ after))
    (hbefore : runGlobals r.context budget before r.machine = .ok () m) (hm : P m) :
    P (final (runGlobals r.context budget nodes m)) := by
  induction nodes generalizing before m with
  | nil => exact hm
  | cons node nodes ih =>
    have hvisits : r.Visits budget ⟨budget, .statement node, m⟩ :=
      ⟨_, _, .global hmain hglobals hbefore, .self⟩
    have hnode := hvisits.keeps_final hP hm
    unfold Activity.final at hnode
    rw [Task.action, final_discard] at hnode
    rw [runGlobals]
    refine final_bind hnode fun flow m₁ hok hm₁ => ?_
    -- The global that has been run is one of those before the rest.
    have hglobals' : r.program.globals = (before ++ [node]) ++ (nodes ++ after) := by
      rw [hglobals]
      simp
    have hbefore' : runGlobals r.context budget (before ++ [node]) r.machine = .ok () m₁ := by
      rw [runGlobals_append hbefore, runGlobals, bind_of_ok hok]
      rfl
    exact ih _ hglobals' hbefore' hm₁

include hr

theorem keeps_runGlobals {main : Routine} (hmain : r.program.find? mainName = some main)
    {nodes after : List Node} (hglobals : r.program.globals = nodes ++ after) :
    P (final (runGlobals r.context budget nodes r.machine)) :=
  keeps_runGlobals_from hP hmain [] nodes after hglobals rfl hr

theorem Starts.keeps {a : Activity} (h : r.Starts budget a) : P a.machine := by
  cases h with
  | global hmain hglobals hbefore =>
    have hm := keeps_runGlobals hP hr hmain hglobals
    rwa [final_of_ok hbefore] at hm
  | main hmain hglobals =>
    have hm := keeps_runGlobals hP hr hmain (List.append_nil _).symm
    rw [final_of_ok hglobals] at hm
    exact hP.quiet hm (.of_eq rfl rfl rfl rfl)

/-- It holds where an activity of the run begins, and where it ends. -/
theorem Visits.keeps {a : Activity} (h : r.Visits budget a) : P a.machine ∧ P (a.final r.context) := by
  have ha : P a.machine := by
    obtain ⟨start, calls, hstart, hreaches⟩ := h
    induction hreaches with
    | self => exact hstart.keeps hP hr
    | @begins calls b c hb hc ih => exact hc.comesBy.keeps hP ⟨start, calls, hstart, hb⟩ ih
  exact ⟨ha, h.keeps_final hP ha⟩

/-- It holds after the run. -/
theorem keeps_runWithin : P (r.runWithin budget).2.machine := by
  cases hmain : r.program.find? mainName with
  | none =>
    rw [runWithin_of_no_main hmain]
    exact hr
  | some main =>
    rw [(runWithin_of_main hmain budget).2, whole]
    have hglobals := keeps_runGlobals hP hr hmain (List.append_nil _).symm
    refine final_bind hglobals fun _ m hglobals hm => ?_
    have hvisits : r.Visits budget ⟨budget, .statement main.body, mainMachine main m⟩ :=
      ⟨_, _, .main hmain hglobals, .self⟩
    have hbody := (hvisits.keeps hP hr).2
    unfold Activity.final at hbody
    rw [Task.action, final_discard] at hbody
    -- The machine on which the body of the first function begins.
    have hbegun : (modify fun m => { m with routine := mainName, loc := main.loc, callDepth := 1 } :
        Exec Unit) (m.noted .mainEntered) = .ok () (mainMachine main m) := rfl
    rw [runMain, bind_of_ok (note_apply _ m), bind_of_ok hbegun]
    refine final_bind hbody fun flow m₁ _ hm₁ => ?_
    cases flow <;> exact hP.quiet hm₁ (.of_eq rfl rfl rfl rfl)

end

end Runner

/-! ## Section 8: What a halt tells about the machine -/

/-- Whether a halt tells the truth about the machine that it leaves behind: nothing is left to be read
if the input is said to be exhausted, and the trace has no room for some record if it is said to need
more memory. -/
def Halt.TrueOf (m : Machine) : Halt → Prop
  | .fault (.inputExhausted consumed _) => m.pool.rest = [] ∧ m.pool.consumed = consumed
  | .fault (.traceMemory needed limit) => ∃ history snapshot, m.history = some history ∧
      history.limit = limit ∧ history.push snapshot = .error needed
  | _ => True

theorem Halt.TrueOf.of_eq {m m' : Machine} {halt : Halt} (h : halt.TrueOf m)
    (hpool : m'.pool = m.pool) (hhistory : m'.history = m.history) : halt.TrueOf m' := by
  unfold TrueOf at h ⊢
  rwa [hpool, hhistory]

/-- Where evaluation halts, it tells the truth. -/
def TellsTruth : Change := fun _ halt m' => ∀ h, halt = some h → h.TrueOf m'

theorem tellsTruth_closed : TellsTruth.Closed :=
  ⟨fun _ => nofun, fun _ h => h⟩

theorem tellsTruth_tick (ctx : Context) : Obeys TellsTruth (tick ctx) := by
  intro m halt hhalt
  rw [tick_apply] at hhalt
  split at hhalt
  · cases hhalt
  · split at hhalt
    · cases hhalt
      trivial
    · cases hhalt

theorem tellsTruth_record (label : String) : Obeys TellsTruth (record label) := by
  intro m
  unfold record
  split
  · nofun
  · next history hhistory =>
    dsimp only
    split
    · next hfull =>
      rintro _ ⟨⟩
      exact ⟨history, snapshot label m, hhistory, rfl, if_pos hfull⟩
    · nofun

theorem tellsTruth_next (loc : Location) : Obeys TellsTruth (next loc) := by
  intro m
  unfold next Pool.next?
  split
  · nofun
  · next hnone =>
    rintro _ ⟨⟩
    split at hnone
    · next hrest => exact ⟨hrest, rfl⟩
    · cases hnone

/-- Halts tell the truth. -/
def truthDiscipline (ctx : Context) : Discipline ctx where
  value _ := TellsTruth
  statement _ := TellsTruth
  value_closed _ := tellsTruth_closed
  statement_closed _ := tellsTruth_closed
  value_statement h := h
  value_le _ h := h
  statement_le _ h := h
  fail _ fault hfault _ := by
    rintro _ ⟨⟩
    cases fault <;> trivial
  place _ _ _ := nofun
  tick _ := tellsTruth_tick ctx
  record _ := tellsTruth_record
  note _ _ _ := nofun
  save _ _ _ _ := nofun
  next _ := tellsTruth_next
  newline _ _ := nofun
  putByte _ _ _ := nofun
  putInt _ _ _ := nofun
  declare _ _ _ := nofun
  scope h halt hhalt := (h halt hhalt).of_eq rfl rfl
  call _ h halt hhalt := (h halt hhalt).of_eq rfl rfl
  spend h := .bind tellsTruth_closed (tellsTruth_tick ctx) fun _ => h
  spendStatement h := .bind tellsTruth_closed (tellsTruth_tick ctx) fun _ => h
  spent := .bind tellsTruth_closed (tellsTruth_tick ctx) fun _ _ => by
    rintro _ ⟨⟩
    trivial

/-- What ends a run is true of the machine at its end. -/
theorem Runner.trueOf_runWithin {r : Runner} {budget : Nat} {halt : Halt}
    (h : (r.runWithin budget).1 = .error halt) : halt.TrueOf (r.runWithin budget).2.machine := by
  cases hmain : r.program.find? mainName with
  | none =>
    rw [runWithin_of_no_main hmain] at h
    cases h
    trivial
  | some main =>
    obtain ⟨houtcome, hmachine⟩ := runWithin_of_main hmain budget
    rw [houtcome] at h
    rw [hmachine]
    have hbody := (truthDiscipline r.context).obeys_exec
      ((truthDiscipline r.context).obeys_enter budget) (Nat.zero_le budget) main.body
    exact Exec.Obeys.whole tellsTruth_closed ((truthDiscipline r.context).obeys_runGlobals budget _)
      hbody (fun _ _ => nofun) (fun _ _ _ _ => nofun) r.machine halt (outcome_eq_error_iff.mp h)

end Stepwise
