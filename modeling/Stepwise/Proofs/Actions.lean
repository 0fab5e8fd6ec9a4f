import Stepwise.Machine.Runner

/-!
# Actions and the machines that they leave behind

An action leaves a machine behind whether it gives a value or halts. This module names the two parts of
what it did, names the changes of the machine at the borders of scopes and calls, and states what
entering a function does as an equation for each budget.
-/

namespace Stepwise

/-! ## Section 1: Results -/

namespace Exec

/-- Why an action halted, if it did. -/
def halt? {α : Type} : EStateM.Result Halt Machine α → Option Halt
  | .ok _ _ => none
  | .error halt _ => some halt

/-- The machine that an action leaves behind, whether it gave a value or halted. -/
def final {α : Type} : EStateM.Result Halt Machine α → Machine
  | .ok _ m => m
  | .error _ m => m

variable {α β : Type}

theorem bind_of_ok {x : Exec α} {f : α → Exec β} {m m' : Machine} {a : α} (h : x m = .ok a m') :
    (x >>= f) m = f a m' := by
  simp only [bind, EStateM.bind, h]

/-- What is done after a look at the machine. -/
theorem get_bind_apply (f : Machine → Exec α) (m : Machine) : (get >>= f) m = f m m :=
  rfl

/-- What is done after a change of the machine. -/
theorem modify_bind_apply (change : Machine → Machine) (f : Unit → Exec α) (m : Machine) :
    (modify change >>= f) m = f () (change m) :=
  rfl

/-- Where the first action halts, both together do. -/
theorem halt?_bind {x : Exec α} {f : α → Exec β} {m : Machine} {halt : Halt}
    (h : halt? (x m) = some halt) : halt? ((x >>= f) m) = some halt := by
  simp only [bind, EStateM.bind]
  cases hx : x m with
  | ok a m' =>
    rw [hx] at h
    cases h
  | error halt' m' =>
    rw [hx] at h
    exact h

theorem halt?_discard (x : Exec α) (m : Machine) : halt? ((do let _ ← x) m) = halt? (x m) := by
  simp only [bind, EStateM.bind]
  cases x m <;> rfl

/-- A step is counted in any case. -/
theorem tick_apply (ctx : Context) (m : Machine) :
    tick ctx m =
      match ctx.limits.maxSteps with
      | none => .ok () { m with steps := m.steps + 1 }
      | some limit =>
        if limit < m.steps + 1 then
          .error (.fault (.stepLimit limit m.loc)) { m with steps := m.steps + 1 }
        else .ok () { m with steps := m.steps + 1 } := by
  unfold tick
  rw [modify_bind_apply, get_bind_apply]
  cases ctx.limits.maxSteps with
  | none => rfl
  | some limit =>
    dsimp only
    split <;> rfl

/-- Whether the step is one too many or not, it is counted. -/
theorem final_tick (ctx : Context) (m : Machine) :
    final (tick ctx m) = { m with steps := m.steps + 1 } := by
  rw [tick_apply]
  split
  · rfl
  · split <;> rfl

theorem eq_of_tick {ctx : Context} {m m' : Machine} (h : tick ctx m = .ok () m') :
    m' = { m with steps := m.steps + 1 } := by
  have hfinal := final_tick ctx m
  rw [h] at hfinal
  exact hfinal

end Exec

/-! ## Section 2: Events and the borders of scopes and calls -/

namespace Machine

/-- The machine after an event has been kept. -/
def noted (event : Event) (m : Machine) : Machine :=
  { m with journal := m.journal.map (·.push event) }

/-- The machine after a new scope has been created in the current one. -/
def opened (m : Machine) : Machine :=
  { m with store := m.store.push m.scope, scope := m.store.depth }

/-- The machine after the last scope has been released and another one has become current. -/
def closed (outer : Nat) (m : Machine) : Machine :=
  { m with store := m.store.pop, scope := outer }

/-- The machine after a function has been entered. -/
def called (routine : String) (m : Machine) : Machine :=
  { m with routine := routine, callDepth := m.callDepth + 1 }

/-- The machine after a function has been left for its caller. -/
def returned (caller : String) (m : Machine) : Machine :=
  { m with routine := caller, callDepth := m.callDepth - 1 }

end Machine

theorem Exec.note_apply (event : Event) (m : Machine) : note event m = .ok () (m.noted event) :=
  rfl

theorem Exec.halt?_andThen {α : Type} (x : Exec α) (after : Machine → Machine) (m : Machine) :
    halt? (andThen x after m) = halt? (x m) := by
  unfold andThen
  cases x m <;> rfl

theorem Exec.final_andThen {α : Type} (x : Exec α) (after : Machine → Machine) (m : Machine) :
    final (andThen x after m) = after (final (x m)) := by
  unfold andThen
  cases x m <;> rfl

/-- What is done in a scope of its own, by the machines at its borders. -/
theorem Exec.inScope_apply {α : Type} (x : Exec α) (m : Machine) :
    inScope x m = andThen (do note (.scopeEntered m.store.depth m.scope); x) (Machine.closed m.scope)
      m.opened :=
  rfl

/-- What is done in a call, by the machines at its borders. -/
theorem Exec.inCall_apply {α : Type} (routine : String) (x : Exec α) (m : Machine) :
    inCall routine x m = andThen x (Machine.returned m.routine) (m.called routine) :=
  rfl

/-- The key of a variable without indices is its name. -/
theorem Slot.key_nil (name : String) : Slot.key name [] = name := by
  simp [Slot.key, String.join]

/-! ## Section 3: Calls, case by case -/

/-- The faults of a call that enters no function: there is none of its name, or one that takes another
number of arguments. -/
inductive Fault.RefusesCall (callee : String) (found : Nat) (loc : Location) : Fault → Prop where
  | undefinedRoutine : RefusesCall callee found loc (.undefinedRoutine callee loc)
  | argumentCount (expected : Nat) :
      RefusesCall callee found loc (.argumentCount callee expected found loc)

namespace Machine

open Exec

variable {ctx : Context} {enter : Enter} {loc : Location} {callee : String} {args : List Node}
  {routine : Routine}

theorem eval_putchar (arg : Node) :
    eval ctx enter (.call putchar [arg] loc) = (do
      let value ← eval ctx enter arg
      print (·.putByte (lowByte value))
      return value) := by
  rw [eval, if_pos rfl]

theorem eval_putchar_of_length_ne (h : args.length ≠ 1) :
    eval ctx enter (.call putchar args loc) =
      fail (.argumentCount putchar 1 args.length loc) := by
  unfold eval
  rw [if_pos rfl]
  split
  · exact absurd rfl h
  · rfl

theorem eval_call_of_unknown (hname : callee ≠ putchar) (h : ctx.program.find? callee = none) :
    eval ctx enter (.call callee args loc) = fail (.undefinedRoutine callee loc) := by
  unfold eval
  rw [if_neg hname, h]

theorem eval_call_of_length_ne (hname : callee ≠ putchar)
    (h : ctx.program.find? callee = some routine) (hcount : routine.params.length ≠ args.length) :
    eval ctx enter (.call callee args loc) =
      fail (.argumentCount callee routine.params.length args.length loc) := by
  unfold eval
  rw [if_neg hname, h]
  exact if_neg hcount

/-- Where its arguments are as many as its parameters, a function is entered. -/
theorem eval_call (hname : callee ≠ putchar) (h : ctx.program.find? callee = some routine)
    (hcount : routine.params.length = args.length) :
    eval ctx enter (.call callee args loc) = (do
      let values ← evalAll ctx enter args
      enter routine values loc) := by
  unfold eval
  rw [if_neg hname, h]
  exact if_pos hcount

/-- A call prints a byte, or enters a function of the program, or is refused before any argument of it is
evaluated. -/
theorem eval_call_cases (ctx : Context) (enter : Enter) (callee : String) (args : List Node)
    (loc : Location) :
    (∃ arg, callee = putchar ∧ args = [arg]) ∨
      (∃ routine, callee ≠ putchar ∧ ctx.program.find? callee = some routine ∧
        routine.params.length = args.length) ∨
      ∃ fault, fault.RefusesCall callee args.length loc ∧
        eval ctx enter (.call callee args loc) = fail fault := by
  by_cases hname : callee = putchar
  · subst hname
    by_cases hlength : args.length = 1
    · obtain ⟨arg, rfl⟩ := List.length_eq_one_iff.mp hlength
      exact .inl ⟨arg, rfl, rfl⟩
    · -- A byte is put of one argument only.
      exact .inr (.inr ⟨_, .argumentCount 1, eval_putchar_of_length_ne hlength⟩)
  · cases hfind : ctx.program.find? callee with
    | none =>
      -- No function has this name.
      exact .inr (.inr ⟨_, .undefinedRoutine, eval_call_of_unknown hname hfind⟩)
    | some routine =>
      by_cases hcount : routine.params.length = args.length
      · exact .inr (.inl ⟨routine, hname, rfl, hcount⟩)
      · -- The function takes another number of arguments.
        exact .inr (.inr ⟨_, .argumentCount _, eval_call_of_length_ne hname hfind hcount⟩)

theorem printAll_cons_of_ne_endl {item : Node} (h : ∀ loc, item ≠ .endl loc) (items : List Node) :
    printAll ctx enter (item :: items) = (do
      let value ← eval ctx enter item
      print (·.putInt value)
      printAll ctx enter items) := by
  rw [printAll]
  exact h

/-- Without budget a call is refused for its depth, or counts its step and halts. -/
theorem activate_zero (ctx : Context) (routine : Routine) (args : List Int32) (loc : Location) :
    activate ctx 0 routine args loc = (do
      let m ← get
      if ctx.limits.maxDepth < m.callDepth then fail (.callDepth ctx.limits.maxDepth loc)
      else do
        tick ctx
        throw .outOfBudget) := by
  funext m
  rw [activate, get_bind_apply, get_bind_apply]
  split <;> rfl

/-- What entering a function does after its step has been counted, if `depth` calls were active. -/
def runBody (ctx : Context) (budget : Nat) (routine : Routine) (args : List Int32) (depth : Nat) :
    Exec Int32 := do
  note (.called routine.name args (depth + 1))
  let flow ← inCall routine.name <| inScope do
    bindParams routine.params args
    exec ctx (activate ctx budget) budget routine.body
  return flow.value

/-- With budget left, a call that is not refused counts its step and runs the body. -/
theorem activate_succ (ctx : Context) (budget : Nat) (routine : Routine) (args : List Int32)
    (loc : Location) :
    activate ctx (budget + 1) routine args loc = (do
      let m ← get
      if ctx.limits.maxDepth < m.callDepth then fail (.callDepth ctx.limits.maxDepth loc)
      else do
        tick ctx
        runBody ctx budget routine args m.callDepth) := by
  funext m
  rw [activate, get_bind_apply, get_bind_apply]
  split <;> rfl

end Machine

/-! ## Section 4: Runs -/

/-- How an action ended. -/
def Exec.outcome : EStateM.Result Halt Machine Unit → Except Halt Unit
  | .ok _ _ => .ok ()
  | .error halt _ => .error halt

namespace Exec

/-- An action has ended by a halt exactly if it halted. -/
theorem outcome_eq_error_iff {result : EStateM.Result Halt Machine Unit} {halt : Halt} :
    outcome result = .error halt ↔ halt? result = some halt := by
  cases result with
  | ok a m => exact ⟨nofun, nofun⟩
  | error halt' m => exact (Except.error.injEq _ _).to_iff.trans Option.some_inj.symm

end Exec

namespace Runner

open Exec Machine

/-- What stays fixed in a run. -/
def context (r : Runner) : Context :=
  ⟨r.program, r.limits⟩

/-- A run as one action: the globals and then the main function. -/
def whole (ctx : Context) (budget : Nat) (main : Routine) : Exec Unit := do
  runGlobals ctx budget ctx.program.globals
  runMain ctx budget main

/-- Without a main function a run ends at once. -/
theorem runWithin_of_no_main {r : Runner} (hmain : r.program.find? mainName = none)
    (budget : Nat) : r.runWithin budget = (.error (.fault .noMain), r) := by
  unfold runWithin
  rw [hmain]

/-- The outcome of a run and the machine that it leaves behind are those of the action. -/
theorem runWithin_of_main {r : Runner} {main : Routine}
    (hmain : r.program.find? mainName = some main) (budget : Nat) :
    (r.runWithin budget).1 = outcome (whole r.context budget main r.machine) ∧
      (r.runWithin budget).2.machine = final (whole r.context budget main r.machine) := by
  unfold runWithin whole context
  rw [hmain]
  simp only [bind, EStateM.bind]
  cases runGlobals ⟨r.program, r.limits⟩ budget r.program.globals r.machine with
  | error halt m =>
    -- A global declaration has halted, and the main function is not begun.
    exact ⟨rfl, rfl⟩
  | ok a m =>
    dsimp only
    cases runMain ⟨r.program, r.limits⟩ budget main m with
    | error halt m => exact ⟨rfl, rfl⟩
    | ok a m => exact ⟨rfl, rfl⟩

end Runner

end Stepwise
