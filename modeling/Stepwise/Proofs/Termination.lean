import Stepwise.Proofs.Ceilings

/-!
# Under a limit on steps every run ends

Evaluation carries a budget for the rounds of loops and for nested calls. It is bookkeeping and no
bound of its own: under a limit on steps, every budget that reaches the limit gives the same run, and
none of these runs is cut short by it.

The reason is the order in which evaluation works. Whenever an activity begins another one, either a
step has been counted in between, or the new task is a smaller part of the tree. So a task can come
up again, in the next round of a loop or in a recursive call, only at the price of a step.

## Main results

* `Begins.progress`: what the beginning of an activity costs.
* `Runner.runWithin_stable`: a run that comes to an end is the same under every higher budget.
* `limited_run_ends`: under a limit on steps every run comes to an end within it.
-/

namespace Stepwise

open Machine Exec

/-! ## Section 1: Runs that end -/

/-- A smaller budget is used up first, and nothing else sets two budgets apart. -/
theorem budget_sound (ctx : Context) : (Coupling.same (· = .outOfBudget)).Sound ctx ctx :=
  Coupling.same_sound rfl (.inl rfl) fun _ => .refl _

/-- Of two actions that differ in their budgets only, the first one decides unless it is cut short. -/
theorem Coupling.Simulates.eq_of_not_cut {α : Type} {x y : Exec α}
    (h : (Coupling.same (· = .outOfBudget)).Simulates Eq x y) {m : Machine}
    (hx : halt? (x m) ≠ some .outOfBudget) : y m = x m := by
  have hm : (Coupling.same (· = .outOfBudget)).alike m m := rfl
  rcases (h.agrees hm).eq_or_escapes with heq | ⟨halt, hhalt, rfl, -⟩
  · exact heq
  · exact absurd hhalt hx

namespace Runner

variable {budget budget' : Nat}

theorem runGlobals_stable {ctx : Context} (hle : budget ≤ budget') {nodes : List Node} {m : Machine}
    (h : halt? (runGlobals ctx budget nodes m) ≠ some .outOfBudget) :
    runGlobals ctx budget' nodes m = runGlobals ctx budget nodes m := by
  have hsimulates := (budget_sound ctx).simulates_runGlobals (.inr ⟨hle, rfl⟩) nodes
  rw [show relabelAll (Coupling.same (· = .outOfBudget)).relabeling nodes = nodes from
    relabelAll_same nodes] at hsimulates
  exact hsimulates.eq_of_not_cut h

theorem runMain_stable {ctx : Context} (hle : budget ≤ budget') {main : Routine} {m : Machine}
    (h : halt? (runMain ctx budget main m) ≠ some .outOfBudget) :
    runMain ctx budget' main m = runMain ctx budget main m := by
  have hsimulates := (budget_sound ctx).simulates_runMain (.inr ⟨hle, rfl⟩) main
  rw [show main.relabel (Coupling.same (· = .outOfBudget)).relabeling = main from
    main.relabel_same] at hsimulates
  exact hsimulates.eq_of_not_cut h

/-- A run that comes to an end is the same under every higher budget. -/
theorem runWithin_stable {r : Runner} (hle : budget ≤ budget')
    (h : (r.runWithin budget).1 ≠ .error .outOfBudget) :
    r.runWithin budget' = r.runWithin budget := by
  cases hmain : r.program.find? mainName with
  | none => rw [runWithin_of_no_main hmain, runWithin_of_no_main hmain]
  | some main =>
    rw [(runWithin_of_main hmain budget).1] at h
    have hwhole := mt outcome_eq_error_iff.mpr h
    -- Neither the globals nor the main function have been cut short.
    have hglobals : halt? (runGlobals r.context budget r.program.globals r.machine) ≠
        some .outOfBudget := fun hcut => hwhole (halt?_bind hcut)
    have hglobalsStable : runGlobals ⟨r.program, r.limits⟩ budget' r.program.globals r.machine =
        runGlobals ⟨r.program, r.limits⟩ budget r.program.globals r.machine :=
      runGlobals_stable hle hglobals
    unfold runWithin
    simp only [hmain, hglobalsStable]
    cases hrun : runGlobals ⟨r.program, r.limits⟩ budget r.program.globals r.machine with
    | error halt m => rfl
    | ok _ m =>
      have hwholeMain : whole r.context budget main r.machine = runMain r.context budget main m :=
        bind_of_ok hrun
      rw [hwholeMain] at hwhole
      have hmainStable : runMain ⟨r.program, r.limits⟩ budget' main m =
          runMain ⟨r.program, r.limits⟩ budget main m := runMain_stable hle hwhole
      simp only [hmainStable]

/-- The run comes to an end, whatever budget that takes, and this is what it leaves behind. -/
def Ends (r : Runner) (run : Except Halt Unit × Runner) : Prop :=
  run.1 ≠ .error .outOfBudget ∧ ∃ budget, r.runWithin budget = run

/-- A run ends in one way only. -/
theorem Ends.unique {r : Runner} {run run' : Except Halt Unit × Runner} (h : r.Ends run)
    (h' : r.Ends run') : run = run' := by
  obtain ⟨hrun, budget, rfl⟩ := h
  obtain ⟨hrun', budget', rfl⟩ := h'
  rw [← runWithin_stable (Nat.le_max_left budget budget') hrun,
    ← runWithin_stable (Nat.le_max_right budget budget') hrun']

end Runner

/-! ## Section 2: What a beginning costs -/

/-- The size of the part of the tree that a task is about. A call that is about to be made has its
arguments behind it and the body of the function ahead, which is no part of the tree at hand. -/
noncomputable def Task.size : Task → Nat
  | value node => sizeOf node
  | values nodes => sizeOf nodes
  | slot ref => sizeOf ref
  | input _ targets => sizeOf targets
  | output items => sizeOf items
  | statement node => sizeOf node
  | statements nodes => sizeOf nodes
  | branch node => sizeOf node
  | loop condition body step _ => sizeOf condition + sizeOf body + sizeOf step
  | call _ _ _ => 0

/-- From one activity to another a step has been counted, or the task has become smaller. -/
def Activity.Progress (a b : Activity) : Prop :=
  a.machine.steps < b.machine.steps ∨
    b.machine.steps = a.machine.steps ∧ b.task.size < a.task.size

theorem Activity.progress_of_size_lt {a b : Activity} (hsteps : a.machine.steps ≤ b.machine.steps)
    (hsize : b.task.size < a.task.size) : a.Progress b := by
  rcases Nat.lt_or_eq_of_le hsteps with hlt | heq
  · exact .inl hlt
  · exact .inr ⟨heq.symm, hsize⟩

theorem Exec.exists_of_bind_eq_ok {α β : Type} {x : Exec α} {f : α → Exec β} {m m' : Machine} {b : β}
    (h : (x >>= f) m = .ok b m') : ∃ a m₁, x m = .ok a m₁ ∧ f a m₁ = .ok b m' := by
  simp only [bind, EStateM.bind] at h
  cases hx : x m with
  | ok a m₁ =>
    rw [hx] at h
    exact ⟨a, m₁, rfl, h⟩
  | error halt m₁ =>
    rw [hx] at h
    cases h

theorem steps_of_tick {ctx : Context} {m m' : Machine} (h : tick ctx m = .ok () m') :
    m'.steps = m.steps + 1 := by
  rw [eq_of_tick h]

theorem steps_of_record {label : String} {m m' : Machine} (h : record label m = .ok () m') :
    m'.steps = m.steps := by
  unfold record at h
  split at h
  · cases h
    rfl
  · dsimp only at h
    split at h
    · cases h
    · cases h
      rfl

/-- A statement begins with a step. -/
theorem steps_of_arrive {ctx : Context} {node : Node} {m m' : Machine}
    (h : arrive ctx node m = .ok () m') : m'.steps = m.steps + 1 := by
  have hcount : ∀ {m : Machine}, (do tick ctx; record node.label) m = .ok () m' →
      m'.steps = m.steps + 1 := by
    intro m h
    obtain ⟨_, m₁, htick, hrecord⟩ := exists_of_bind_eq_ok h
    rw [steps_of_record hrecord, steps_of_tick htick]
  unfold arrive at h
  cases hloc : node.loc? with
  | none =>
    rw [hloc] at h
    exact hcount h
  | some loc =>
    rw [hloc] at h
    -- Taking over the place counts no step.
    obtain ⟨_, m₁, hplace, hrest⟩ := exists_of_bind_eq_ok h
    cases hplace
    have hsteps := hcount hrest
    exact hsteps

/-- Nothing is printed and no step is taken back while a call gets its scope and its parameters. -/
theorem grown_of_bindParams (ctx : Context) {routine : Routine} {args : List Int32} {m m' : Machine}
    (h : bindParams routine.params args (m.insideCall routine args) = .ok () m') : m.Grown m' := by
  have hparams : Obeys ((growthDiscipline ctx).statement 0) (bindParams routine.params args) :=
    (growthDiscipline ctx).obeys_bindParams routine.params args
  have hgrown : (m.insideCall routine args).Grown m' := hparams.of_ok h
  exact ⟨hgrown.output, hgrown.steps⟩

/-- No step is ever taken back. -/
theorem Begins.steps_le {ctx : Context} {a b : Activity} (h : Begins ctx a b) :
    a.machine.steps ≤ b.machine.steps := by
  rcases h.cases (growthDiscipline ctx) with hgrown | ⟨m, hgrown, hb⟩ |
    ⟨routine, args, _, m, -, -, htick, hparams⟩
  · exact hgrown.steps
  · rw [hb]
    exact hgrown.steps
  · have hbody := (grown_of_bindParams ctx hparams).steps
    rw [steps_of_tick htick] at hbody
    exact Nat.le_of_succ_le hbody

/-- A step on the way from one activity to another. -/
theorem Activity.progress_of_step {a b : Activity} {m m' : Machine} (ha : a.machine.Grown m)
    (hstep : m'.steps = m.steps + 1) (hb : m'.Grown b.machine) : a.Progress b := by
  have hbefore := ha.steps
  have hafter := hb.steps
  exact .inl (by omega)

/-- Whenever an activity begins another one, a step has been counted or the task has become smaller. -/
theorem Begins.progress {ctx : Context} {a b : Activity} (h : Begins ctx a b) : a.Progress b := by
  have hle := h.steps_le
  have hexec : ∀ {b node m m' flow}, exec ctx (activate ctx b) b node m = .ok flow m' →
      m.Grown m' :=
    fun h => ((growthDiscipline ctx).obeys_exec ((growthDiscipline ctx).obeys_enter _)
      (Nat.zero_le _) _).of_ok h
  have hholds : ∀ {b condition m m' v}, holds ctx (activate ctx b) condition m = .ok v m' →
      m.Grown m' :=
    fun h => ((growthDiscipline ctx).obeys_holds ((growthDiscipline ctx).obeys_enter _) _).of_ok h
  have hgoesOn : ∀ {b condition m m' v},
      loopCondition ctx (activate ctx b) condition m = .ok v m' → m.Grown m' :=
    fun h => ((growthDiscipline ctx).obeys_loopCondition _ _).of_ok h
  have hstep : ∀ {b step m m'}, loopStep ctx (activate ctx b) step m = .ok () m' → m.Grown m' :=
    fun h => ((growthDiscipline ctx).obeys_loopStep _ _).of_ok h
  cases h with
  -- Within an expression, and from a list of statements to one of them, the task becomes smaller.
  | var | assigned | target | operand | left | right | byte | args | enter | input | output | head
  | tail | indices | inputTarget | inputMore | outputItem | outputMore | outputNewline | sequence
  | first | rest | branch | test =>
    refine Activity.progress_of_size_lt hle ?_
    simp [Task.size] <;> omega
  -- Every other statement counts a step when it begins.
  | condition h | whileLoop h | init h | giveBack h | alone _ h =>
    exact Activity.progress_of_step (.refl _) (steps_of_arrive h) (.refl _)
  | thenBranch h hcondition | elseBranch h hcondition =>
    exact Activity.progress_of_step (.refl _) (steps_of_arrive h) (hholds hcondition)
  | forLoop h hinit => exact Activity.progress_of_step (.refl _) (steps_of_arrive h) (hexec hinit)
  | block h =>
    exact Activity.progress_of_step (.refl _) (steps_of_arrive h) ⟨List.prefix_rfl, Nat.le_refl _⟩
  -- So does every round of a loop, after its condition.
  | round hcondition h =>
    exact Activity.progress_of_step (hgoesOn hcondition) (steps_of_tick h) (.refl _)
  | step hcondition h hbody =>
    exact Activity.progress_of_step (hgoesOn hcondition) (steps_of_tick h) (hexec hbody)
  | again hcondition h hbody hlast =>
    exact Activity.progress_of_step (hgoesOn hcondition) (steps_of_tick h)
      ((hexec hbody).trans (hstep hlast))
  | body _ h hparams =>
    exact Activity.progress_of_step (.refl _) (steps_of_tick h) (grown_of_bindParams ctx hparams)

/-- Where evaluation gets, steps have been counted or the task is no larger than before. -/
theorem Reaches.size_le {ctx : Context} {a b : Activity} {calls : Nat} (h : Reaches ctx a calls b) :
    a.machine.steps < b.machine.steps ∨
      b.machine.steps = a.machine.steps ∧ b.task.size ≤ a.task.size := by
  induction h with
  | self => exact .inr ⟨rfl, Nat.le_refl _⟩
  | begins _ hc ih =>
    rcases hc.progress with hlt | ⟨heq, hsize⟩ <;> omega

/-- A task that comes up again, or one that is as large, comes up after a step at least. -/
theorem Begins.steps_lt_of_size_le {ctx : Context} {a b c : Activity} {calls : Nat}
    (h : Begins ctx a b) (hc : Reaches ctx b calls c) (hsize : a.task.size ≤ c.task.size) :
    a.machine.steps < c.machine.steps := by
  have hfirst := h.progress
  have hlater := hc.size_le
  unfold Activity.Progress at hfirst
  omega

/-! ## Section 3: Runs under a limit -/

namespace Runner

variable {program : Program} {inputs : List Int32} {n depth : Nat} {trace : Option Nat}
  {logged : Bool}

/-- A budget of as many rounds and calls as the limit allows steps does not run out. -/
theorem limited_ne_outOfBudget {budget : Nat} (hbudget : n ≤ budget) :
    ((ofProgram program inputs ⟨some n, depth, trace⟩ logged).runWithin budget).1 ≠
      .error .outOfBudget := by
  cases hmain : program.find? mainName with
  | none =>
    rw [runWithin_of_no_main hmain]
    nofun
  | some main =>
    rw [(firstRun_of_main hmain inputs _ logged budget).1]
    intro hcut
    have hbudget' : n ≤ (firstMachine inputs trace logged).steps + budget :=
      Nat.le_add_left_of_le hbudget
    exact whole_ne_outOfBudget (n := n) rfl budget main (Nat.zero_le n) hbudget'
      (outcome_eq_error_iff.mp hcut)

theorem limited_steps_le (budget : Nat) :
    ((ofProgram program inputs ⟨some n, depth, trace⟩ logged).runWithin budget).2.machine.steps ≤
      n + 1 := by
  cases hmain : program.find? mainName with
  | none =>
    rw [runWithin_of_no_main hmain]
    exact Nat.zero_le _
  | some main =>
    rw [(firstRun_of_main hmain inputs _ logged budget).2]
    have hlimit : (⟨program, ⟨some n, depth, trace⟩⟩ : Context).limits.maxSteps = some n := rfl
    have hceiling := underCeiling_whole hlimit budget main (firstMachine inputs trace logged)
      (Nat.zero_le n)
    -- A run that exceeds the limit stops right there, and every other one stays within it.
    by_cases hstopped : ∃ h, halt? (whole ⟨program, ⟨some n, depth, trace⟩⟩ budget main
        (firstMachine inputs trace logged)) = some h ∧ h.IsStepLimit n
    · exact Nat.le_of_eq (hceiling.exceeded hstopped)
    · exact Nat.le_succ_of_le (hceiling.within hstopped)

end Runner

/-- Under a limit on steps every run comes to an end, well or by a fault, and counts one step more
than the limit at most. The limit is all that this rests on: every budget that reaches it gives the
same run. Whatever evaluation begins, it has counted a step or goes on with a smaller part of the
tree, and so nothing comes up again without a step. -/
theorem limited_run_ends (program : Program) (inputs : List Int32) (n depth : Nat)
    (trace : Option Nat) (logged : Bool) :
    let r := Runner.ofProgram program inputs ⟨some n, depth, trace⟩ logged
    (r.run.1 = .ok () ∨ ∃ fault, r.run.1 = .error (.fault fault)) ∧
      r.run.2.machine.steps ≤ n + 1 ∧
      (∀ budget, n ≤ budget → r.runWithin budget = r.run) ∧
      (∀ a b, Begins r.context a b → a.Progress b) ∧
      ∀ a b c calls, Begins r.context a b → Reaches r.context b calls c →
        a.task.size ≤ c.task.size → a.machine.steps < c.machine.steps := by
  intro r
  have hended : r.run.1 ≠ .error .outOfBudget := Runner.limited_ne_outOfBudget (Nat.le_succ n)
  refine ⟨?_, Runner.limited_steps_le (n + 1), fun budget hbudget => ?_, fun a b h => h.progress,
    fun a b c calls h hc hsize => h.steps_lt_of_size_le hc hsize⟩
  · cases hrun : r.run.1 with
    | ok _ => exact .inl rfl
    | error halt =>
      cases halt with
      | fault fault => exact .inr ⟨fault, rfl⟩
      | outOfBudget => exact absurd hrun hended
  · -- A budget below that of the run is still enough, and both are compared at the larger one.
    have hother : (r.runWithin budget).1 ≠ .error .outOfBudget :=
      Runner.limited_ne_outOfBudget hbudget
    exact Runner.Ends.unique ⟨hother, budget, rfl⟩ ⟨hended, n + 1, rfl⟩

/-- A program whose loop never ends by itself. -/
def loopsForever : Program :=
  ⟨[⟨mainName, [], .sequence [.whileLoop (.literal 1 .start) (.sequence []) .start], .start⟩], []⟩

/-- A loop without an end is stopped by the limit, whatever the budget; each of its rounds takes a
step. -/
theorem limited_run_ends_loopsForever :
    let r := Runner.ofProgram loopsForever [] ⟨some 3, 0, none⟩ false
    let round := fun k m => (⟨2, .loop (some (.literal 1 .start)) (.sequence []) none k, m⟩ : Activity)
    r.run.1 = .error (.fault (.stepLimit 3 .start)) ∧ r.runWithin 7 = r.run ∧
      r.machine.steps < { r.machine with steps := 1 }.steps ∧
      Begins r.context (round 1 r.machine) (round 0 { r.machine with steps := 1 }) := by
  intro r round
  have hbegins : Begins r.context (round 1 r.machine) (round 0 { r.machine with steps := 1 }) :=
    .again rfl rfl rfl rfl
  obtain ⟨-, -, hbudget, -, hcycle⟩ := limited_run_ends loopsForever [] 3 0 none false
  exact ⟨rfl, hbudget 7 (by decide), hcycle _ _ _ 0 hbegins .self (Nat.le_refl _), hbegins⟩

end Stepwise
