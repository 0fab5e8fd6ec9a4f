import Stepwise.Proofs.Activity
import Stepwise.Proofs.Simulation

/-!
# Limits cut runs short and change nothing else

A run under a limit is compared with the run under a higher one, or without it. Both are runs of the
same program on equal machines, up to the point where the lower limit is exceeded. This is a sound
coupling with equality of machines, and the fault of the limit is its escape.

The budget of evaluation is a limit of this kind too. A limit on steps is a sufficient budget: each
round and each call counts a step, so that the steps run out first.

## Main results

* `whole_stable`: a run that a budget is enough for is the same under every higher budget.
* `ceilingDiscipline`: how many steps a run under a limit takes, and that its budget is enough.
* `limits_only_truncate`: what limits on steps and on calls do to whole runs.
-/

namespace Stepwise

open Machine Exec

/-! ## Section 1: Runs of the same program -/

/-- The coupling of runs on equal machines. -/
def Coupling.same (escapes : Halt → Prop) : Coupling :=
  ⟨.same, Eq, escapes⟩

namespace Coupling

variable {escapes : Halt → Prop} {α : Type}

theorem Agrees.refl (result : EStateM.Result Halt Machine α) :
    (same escapes).Agrees Eq result result := by
  cases result with
  | ok a m => exact .ok rfl rfl
  | error halt m => exact .error_of_eq halt.relabel_same rfl

/-- Results that correspond are equal, unless the first one is an escape. -/
theorem Agrees.eq_or_escapes {result result' : EStateM.Result Halt Machine α}
    (h : (same escapes).Agrees Eq result result') :
    result' = result ∨
      ∃ halt, halt? result = some halt ∧ escapes halt ∧ (final result).Grown (final result') := by
  cases h with
  | @ok a b m m' hv hm =>
    obtain rfl : a = b := hv
    obtain rfl : m = m' := hm
    exact .inl rfl
  | @error halt m m' hm =>
    obtain rfl : m = m' := hm
    exact .inl (congrArg (EStateM.Result.error · m) halt.relabel_same)
  | @escape halt _ _ hhalt hm => exact .inr ⟨halt, rfl, hhalt, hm⟩

/-- Two runs correspond if counting a step and refusing calls does, and if every function of the first
program is one of the second. A function that only the second one has must be an escape. -/
theorem same_sound_of_find? {ctx ctx' : Context}
    (hknown : ∀ {callee routine}, ctx.program.find? callee = some routine →
      ctx'.program.find? callee = some routine)
    (hunknown : ∀ {callee}, ctx.program.find? callee = none → ctx'.program.find? callee = none ∨
      ∀ loc, escapes (.fault (.undefinedRoutine callee loc)))
    (hmaxDepth : ctx'.limits.maxDepth = ctx.limits.maxDepth ∨
      ctx.limits.maxDepth ≤ ctx'.limits.maxDepth ∧
        ∀ loc, escapes (.fault (.callDepth ctx.limits.maxDepth loc)))
    (htick : ∀ m, (same escapes).Agrees Eq (tick ctx m) (tick ctx' m)) :
    (same escapes).Sound ctx ctx' where
  output h := by cases h; rfl
  steps h := by cases h; rfl
  scope h := by cases h; rfl
  depth h := by cases h; rfl
  callDepth h := by cases h; rfl
  loc h := by cases h; rfl
  load _ _ _ _ h := by cases h; rfl
  putchar _ := Iff.rfl
  known h := (hknown h).trans (congrArg some (Routine.relabel_same _).symm)
  unknown := hunknown
  maxDepth := hmaxDepth
  tick h := by cases h; exact htick _
  record _ _ _ h := by cases h; exact .refl _
  next _ _ _ h := by cases h; exact .refl _
  place _ _ _ h := by cases h; rfl
  noted event _ _ h := by
    cases h
    exact congrArg (Machine.noted · _) event.relabel_same.symm
  save _ _ _ _ _ h := by cases h; rfl
  declare _ _ _ h := by cases h; rfl
  print _ _ _ h := by cases h; rfl
  opened h := by cases h; rfl
  closed h h' := by cases h; cases h'; rfl
  called _ _ _ h := by cases h; rfl
  returned h h' := by cases h; cases h'; rfl
  mainBegun _ _ _ h := by cases h; rfl
  mainEnded h := by cases h; rfl

/-- Two runs of the same program correspond if counting a step and refusing calls does. -/
theorem same_sound {ctx ctx' : Context} (hprogram : ctx'.program = ctx.program)
    (hmaxDepth : ctx'.limits.maxDepth = ctx.limits.maxDepth ∨
      ctx.limits.maxDepth ≤ ctx'.limits.maxDepth ∧
        ∀ loc, escapes (.fault (.callDepth ctx.limits.maxDepth loc)))
    (htick : ∀ m, (same escapes).Agrees Eq (tick ctx m) (tick ctx' m)) :
    (same escapes).Sound ctx ctx' :=
  same_sound_of_find? (fun h => hprogram ▸ h) (fun h => .inl (hprogram ▸ h)) hmaxDepth htick

/-- Two runs with the same globals on the same machine: they are equal, or the first one escapes. -/
theorem whole_eq_or_escapes {ctx ctx' : Context} (hC : (same escapes).Sound ctx ctx')
    (hglobals : ctx'.program.globals = ctx.program.globals) {budget budget' : Nat}
    (hbudget : (same escapes).Affords budget budget') (main : Routine) (m : Machine) :
    Runner.whole ctx' budget' main m = Runner.whole ctx budget main m ∨
      ∃ halt, halt? (Runner.whole ctx budget main m) = some halt ∧ escapes halt ∧
        (final (Runner.whole ctx budget main m)).Grown
          (final (Runner.whole ctx' budget' main m)) := by
  have hglobals : ctx'.program.globals = relabelAll .same ctx.program.globals := by
    rw [relabelAll_same, hglobals]
  -- The relabeling that changes nothing is taken off the globals and the main function.
  have hwhole := hC.simulates_whole hbudget hglobals main
  rw [show main.relabel (same escapes).relabeling = main from main.relabel_same] at hwhole
  have hm : (same escapes).alike m m := rfl
  exact (hwhole.agrees hm).eq_or_escapes

end Coupling

/-! ## Section 2: Budgets -/

/-- A run that a budget is enough for is the same under every higher budget. -/
theorem whole_stable {ctx : Context} {budget budget' : Nat} (hle : budget ≤ budget')
    {main : Routine} {m : Machine}
    (h : halt? (Runner.whole ctx budget main m) ≠ some .outOfBudget) :
    Runner.whole ctx budget' main m = Runner.whole ctx budget main m := by
  have hC : (Coupling.same (· = .outOfBudget)).Sound ctx ctx :=
    Coupling.same_sound rfl (.inl rfl) fun m => .refl _
  rcases Coupling.whole_eq_or_escapes hC rfl (.inr ⟨hle, rfl⟩) main m with heq | ⟨halt, hhalt, rfl, -⟩
  · exact heq
  · exact absurd hhalt h

/-! ## Section 3: The steps of a run under a limit -/

/-- Whether a halt is the fault of exceeding the limit `n` on steps. -/
def Halt.IsStepLimit (n : Nat) (halt : Halt) : Prop :=
  ∃ loc, halt = .fault (.stepLimit n loc)

/-- What a run may do under a limit of `n` steps, as long as it has not exceeded it. -/
structure Ceiling (n credit : Nat) (m : Machine) (halt : Option Halt) (m' : Machine) : Prop where
  steps : m.steps ≤ m'.steps
  /-- The step that exceeds the limit is the last one. -/
  exceeded : (∃ h, halt = some h ∧ h.IsStepLimit n) → m'.steps = n + 1
  within : (¬ ∃ h, halt = some h ∧ h.IsStepLimit n) → m'.steps ≤ n
  /-- With a credit for all steps that are left, the budget does not run out. -/
  afforded : halt = some .outOfBudget → m.steps + credit < n

/-- The limit on steps as a kind of change. -/
def UnderCeiling (n credit : Nat) : Change := fun m halt m' =>
  m.steps ≤ n → Ceiling n credit m halt m'

section

variable {n credit : Nat}

theorem not_isStepLimit_none : ¬ ∃ h, (none : Option Halt) = some h ∧ h.IsStepLimit n := by
  rintro ⟨h, hnone, -⟩
  cases hnone

/-- A change that counts no step. -/
theorem underCeiling_of_steps_eq {m m' : Machine} {halt : Option Halt} (hsteps : m'.steps = m.steps)
    (hlimit : ¬ ∃ h, halt = some h ∧ h.IsStepLimit n) (hbudget : halt ≠ some .outOfBudget) :
    UnderCeiling n credit m halt m' :=
  fun hm => ⟨by omega, fun h => absurd h hlimit, fun _ => by omega, fun h => absurd h hbudget⟩

theorem underCeiling_none_of_steps_eq {m m' : Machine} (hsteps : m'.steps = m.steps) :
    UnderCeiling n credit m none m' :=
  underCeiling_of_steps_eq hsteps not_isStepLimit_none (by simp)

theorem underCeiling_fault_of_steps_eq {m m' : Machine} {fault : Fault}
    (hfault : ∀ loc, fault ≠ .stepLimit n loc) (hsteps : m'.steps = m.steps) :
    UnderCeiling n credit m (some (.fault fault)) m' := by
  refine underCeiling_of_steps_eq hsteps ?_ (by simp)
  rintro ⟨h, heq, loc, rfl⟩
  cases heq
  exact hfault loc rfl

theorem underCeiling_closed : (UnderCeiling n credit).Closed where
  refl m := underCeiling_none_of_steps_eq rfl
  trans {m m' m'' halt} h h' hm := by
    have hfirst := h hm
    have hsecond := h' (hfirst.within not_isStepLimit_none)
    have hsteps := hfirst.steps
    have hsteps' := hsecond.steps
    refine ⟨by omega, hsecond.exceeded, hsecond.within, fun hhalt => ?_⟩
    have := hsecond.afforded hhalt
    omega

theorem underCeiling_le {credit' : Nat} {m m' : Machine} {halt : Option Halt}
    (hle : credit ≤ credit') (h : UnderCeiling n credit' m halt m') :
    UnderCeiling n credit m halt m' := by
  intro hm
  refine ⟨(h hm).steps, (h hm).exceeded, (h hm).within, fun hhalt => ?_⟩
  have hafforded := (h hm).afforded hhalt
  omega

/-- A step under a limit: it exceeds the limit, or there is room for it. -/
theorem tick_of_limit {ctx : Context} (hctx : ctx.limits.maxSteps = some n) (m : Machine) :
    n < m.steps + 1 ∧
        tick ctx m = .error (.fault (.stepLimit n m.loc)) { m with steps := m.steps + 1 } ∨
      m.steps + 1 ≤ n ∧ tick ctx m = .ok () { m with steps := m.steps + 1 } := by
  rw [tick_apply, hctx]
  rcases Nat.lt_or_ge n (m.steps + 1) with hlt | hge
  · exact .inl ⟨hlt, if_pos hlt⟩
  · exact .inr ⟨hge, if_neg (Nat.not_lt.mpr hge)⟩

/-- The step that exceeds the limit. -/
theorem ceiling_of_exceeded {m : Machine} (hm : m.steps ≤ n) (hlt : n < m.steps + 1) :
    Ceiling n credit m (some (.fault (.stepLimit n m.loc))) { m with steps := m.steps + 1 } := by
  refine ⟨Nat.le_succ _, fun _ => ?_, fun h => ?_, fun h => by cases h⟩
  · show m.steps + 1 = n + 1
    omega
  · exact absurd ⟨_, rfl, m.loc, rfl⟩ h

theorem underCeiling_tick {ctx : Context} (hctx : ctx.limits.maxSteps = some n) :
    Obeys (UnderCeiling n credit) (tick ctx) := by
  intro m hm
  rcases tick_of_limit hctx m with ⟨hlt, htick⟩ | ⟨hle, htick⟩
  · rw [htick]
    exact ceiling_of_exceeded hm hlt
  · rw [htick]
    exact ⟨Nat.le_succ _, fun h => absurd h not_isStepLimit_none, fun _ => hle, fun h => by cases h⟩

/-- A step, and then something that has one less to pay for. -/
theorem underCeiling_spend {α : Type} {ctx : Context} (hctx : ctx.limits.maxSteps = some n)
    {x : Exec α} (hx : Obeys (UnderCeiling n credit) x) :
    Obeys (UnderCeiling n (credit + 1)) (do tick ctx; x) := by
  intro m hm
  simp only [bind, EStateM.bind]
  rcases tick_of_limit hctx m with ⟨hlt, htick⟩ | ⟨hle, htick⟩
  · rw [htick]
    exact ceiling_of_exceeded hm hlt
  · rw [htick]
    -- The rest begins one step later and has one less to pay for.
    have hrest := hx { m with steps := m.steps + 1 } hle
    have hsteps := hrest.steps
    refine ⟨Nat.le_of_succ_le hsteps, hrest.exceeded, hrest.within, fun hhalt => ?_⟩
    have hafforded : m.steps + 1 + credit < n := hrest.afforded hhalt
    omega

/-- A step that there is no budget for. If the limit allows it, there were steps left to pay for. -/
theorem underCeiling_spent {α : Type} {ctx : Context} (hctx : ctx.limits.maxSteps = some n) :
    Obeys (UnderCeiling n 0) (do tick ctx; throw .outOfBudget : Exec α) := by
  intro m hm
  simp only [bind, EStateM.bind]
  rcases tick_of_limit hctx m with ⟨hlt, htick⟩ | ⟨hle, htick⟩
  · rw [htick]
    exact ceiling_of_exceeded hm hlt
  · rw [htick]
    refine ⟨Nat.le_succ _, ?_, fun _ => hle, fun _ => hle⟩
    rintro ⟨h, heq, loc, rfl⟩
    cases heq

theorem underCeiling_record (label : String) : Obeys (UnderCeiling n credit) (record label) := by
  intro m
  unfold record
  split
  · exact underCeiling_closed.refl m
  · dsimp only
    split
    · exact underCeiling_fault_of_steps_eq (by simp) rfl
    · exact underCeiling_none_of_steps_eq rfl

theorem underCeiling_next (loc : Location) : Obeys (UnderCeiling n credit) (next loc) := by
  intro m
  unfold next
  split
  · exact underCeiling_none_of_steps_eq rfl
  · exact underCeiling_fault_of_steps_eq (by simp) rfl

end

/-- A run under a limit on steps keeps to it, and does not run out of a budget that covers it. -/
def ceilingDiscipline {ctx : Context} {n : Nat} (hctx : ctx.limits.maxSteps = some n) :
    Discipline ctx where
  value := UnderCeiling n
  statement := UnderCeiling n
  value_closed _ := underCeiling_closed
  statement_closed _ := underCeiling_closed
  value_statement h := h
  value_le := underCeiling_le
  statement_le := underCeiling_le
  fail _ _ hfault _ := underCeiling_fault_of_steps_eq (by rintro loc rfl; cases hfault) rfl
  place _ _ _ := underCeiling_none_of_steps_eq rfl
  tick _ := underCeiling_tick hctx
  record _ := underCeiling_record
  note _ _ _ := underCeiling_none_of_steps_eq rfl
  save _ _ _ _ := underCeiling_none_of_steps_eq rfl
  next _ := underCeiling_next
  newline _ _ := underCeiling_none_of_steps_eq rfl
  putByte _ _ _ := underCeiling_none_of_steps_eq rfl
  putInt _ _ _ := underCeiling_none_of_steps_eq rfl
  declare _ _ _ := underCeiling_none_of_steps_eq rfl
  scope h hm := ⟨(h hm).steps, (h hm).exceeded, (h hm).within, (h hm).afforded⟩
  call _ h hm := ⟨(h hm).steps, (h hm).exceeded, (h hm).within, (h hm).afforded⟩
  spend := underCeiling_spend hctx
  spendStatement := underCeiling_spend hctx
  spent := underCeiling_spent hctx

theorem underCeiling_whole {ctx : Context} {n : Nat} (hctx : ctx.limits.maxSteps = some n)
    (budget : Nat) (main : Routine) :
    Obeys (UnderCeiling n budget) (Runner.whole ctx budget main) := by
  have hbody : Obeys (UnderCeiling n budget) (exec ctx (activate ctx budget) budget main.body) :=
    (ceilingDiscipline hctx).obeys_exec ((ceilingDiscipline hctx).obeys_activate budget)
      (Nat.le_refl budget) main.body
  exact .whole underCeiling_closed ((ceilingDiscipline hctx).obeys_runGlobals budget _) hbody
    (fun _ _ => underCeiling_none_of_steps_eq rfl) fun _ _ _ _ => underCeiling_none_of_steps_eq rfl

/-- A limit on steps is a sufficient budget. -/
theorem whole_ne_outOfBudget {ctx : Context} {n : Nat} (hctx : ctx.limits.maxSteps = some n)
    (budget : Nat) (main : Routine) {m : Machine} (hm : m.steps ≤ n)
    (hbudget : n ≤ m.steps + budget) :
    halt? (Runner.whole ctx budget main m) ≠ some .outOfBudget := by
  intro hhalt
  have hafforded := (underCeiling_whole hctx budget main m hm).afforded hhalt
  omega

/-! ## Section 4: With a limit and without it -/

/-- With a limit on steps and without one, steps are counted alike until the limit is exceeded. -/
theorem stepLimit_sound {limited free : Context} {n : Nat} (hprogram : free.program = limited.program)
    (hlimit : limited.limits.maxSteps = some n) (hfree : free.limits.maxSteps = none)
    (hdepth : free.limits.maxDepth = limited.limits.maxDepth) :
    (Coupling.same (Halt.IsStepLimit n)).Sound limited free := by
  refine Coupling.same_sound hprogram (.inl hdepth) fun m => ?_
  have htick : tick free m = .ok () { m with steps := m.steps + 1 } := by
    rw [tick_apply, hfree]
  rcases tick_of_limit hlimit m with ⟨-, hlimited⟩ | ⟨-, hlimited⟩
  · -- Both runs have counted the step, and only the limited one ends with it.
    rw [hlimited, htick]
    exact .escape ⟨m.loc, rfl⟩ (.refl _)
  · rw [hlimited, htick]
    exact .refl _

/-- A run under a limit on steps, compared with one without it that a budget is enough for. -/
theorem whole_of_stepLimit {limited free : Context} {n : Nat}
    (hprogram : free.program = limited.program) (hlimit : limited.limits.maxSteps = some n)
    (hfree : free.limits.maxSteps = none)
    (hdepth : free.limits.maxDepth = limited.limits.maxDepth) {budget : Nat} {main : Routine}
    {m : Machine} (hm : m.steps = 0)
    (h : halt? (Runner.whole free budget main m) ≠ some .outOfBudget) :
    ((final (Runner.whole free budget main m)).steps ≤ n →
      Runner.whole limited (n + 1) main m = Runner.whole free budget main m) ∧
    (n < (final (Runner.whole free budget main m)).steps →
      (∃ loc, halt? (Runner.whole limited (n + 1) main m) = some (.fault (.stepLimit n loc))) ∧
        (final (Runner.whole limited (n + 1) main m)).steps = n + 1 ∧
        (final (Runner.whole limited (n + 1) main m)).Grown
          (final (Runner.whole free budget main m))) := by
  -- Both runs are the same under a budget that is enough for either of them.
  have hlimited := whole_stable (Nat.le_max_right budget (n + 1))
    (whole_ne_outOfBudget hlimit (n + 1) main (by omega : m.steps ≤ n) (by omega))
  have hlarge := whole_stable (Nat.le_max_left budget (n + 1)) h
  have hceiling := underCeiling_whole hlimit (n + 1) main m (by omega)
  have hC := stepLimit_sound hprogram hlimit hfree hdepth
  have hbudget : (Coupling.same (Halt.IsStepLimit n)).Affords (max budget (n + 1))
      (max budget (n + 1)) := .inl rfl
  have hsame := Coupling.whole_eq_or_escapes hC (congrArg Program.globals hprogram) hbudget main m
  rw [hlarge, hlimited] at hsame
  rcases hsame with heq | ⟨halt, hhalt, ⟨loc, rfl⟩, hgrown⟩
  · rw [heq]
    refine ⟨fun _ => rfl, fun hlt => ?_⟩
    -- More steps than the limit allows are taken only by a run that it stops.
    by_cases hstopped : ∃ h, halt? (Runner.whole limited (n + 1) main m) = some h ∧ h.IsStepLimit n
    · have hsteps := hceiling.exceeded hstopped
      obtain ⟨_, hhalt, loc, rfl⟩ := hstopped
      exact ⟨⟨loc, hhalt⟩, hsteps, .refl _⟩
    · have hsteps := hceiling.within hstopped
      omega
  · -- The limited run stops first, and its steps are among those of the other run.
    have hsteps := hceiling.exceeded ⟨_, hhalt, loc, rfl⟩
    have hmore := hgrown.steps
    exact ⟨fun hle => by omega, fun _ => ⟨⟨loc, hhalt⟩, hsteps, hgrown⟩⟩

/-- A run that a limit on nested calls does not stop is the same under every higher one. -/
theorem whole_of_maxDepth_le {low high : Context} (hprogram : high.program = low.program)
    (hsteps : high.limits.maxSteps = low.limits.maxSteps)
    (hle : low.limits.maxDepth ≤ high.limits.maxDepth) {budget : Nat} {main : Routine} {m : Machine}
    (h : ∀ loc, halt? (Runner.whole low budget main m) ≠
      some (.fault (.callDepth low.limits.maxDepth loc))) :
    Runner.whole high budget main m = Runner.whole low budget main m := by
  have hC : (Coupling.same fun halt => ∃ loc, halt = .fault (.callDepth low.limits.maxDepth loc)).Sound
      low high := by
    refine Coupling.same_sound hprogram (.inr ⟨hle, fun loc => ⟨loc, rfl⟩⟩) fun m => ?_
    rw [tick_apply, tick_apply, hsteps]
    exact .refl _
  rcases Coupling.whole_eq_or_escapes hC (congrArg Program.globals hprogram) (.inl rfl) main m with
    heq | ⟨halt, hhalt, ⟨loc, rfl⟩, -⟩
  · exact heq
  · exact absurd hhalt (h loc)

/-! ## Section 5: Whole runs -/

/-- What one sees of a run: its outcome, its output and steps, how many integers it has read, and the
values at the root. -/
structure Runner.SameRun (run run' : Except Halt Unit × Runner) : Prop where
  outcome : run.1 = run'.1
  output : run.2.machine.output = run'.2.machine.output
  steps : run.2.machine.steps = run'.2.machine.steps
  consumed : run.2.machine.pool.consumed = run'.2.machine.pool.consumed
  globals (key : String) : run.2.global key = run'.2.global key

theorem Runner.SameRun.of_eq {run run' : Except Halt Unit × Runner} (houtcome : run.1 = run'.1)
    (hmachine : run.2.machine = run'.2.machine) : SameRun run run' :=
  ⟨houtcome, by rw [hmachine], by rw [hmachine], by rw [hmachine], fun key => by
    unfold global
    rw [hmachine]⟩

namespace Runner

/-- The machine on which a first run begins. -/
def firstMachine (inputs : List Int32) (trace : Option Nat) (logged : Bool) : Machine :=
  { pool := .ofList inputs
    history := trace.map History.empty
    journal := if logged then some #[] else none }

/-- A first run is the run of the program as one action, on a machine that only depends on what there
is to read and to keep. -/
theorem firstRun_of_main {program : Program} {main : Routine}
    (hmain : program.find? mainName = some main) (inputs : List Int32) (limits : Limits)
    (logged : Bool) (budget : Nat) :
    ((ofProgram program inputs limits logged).runWithin budget).1 =
        outcome (whole ⟨program, limits⟩ budget main (firstMachine inputs limits.traceLimit logged)) ∧
      ((ofProgram program inputs limits logged).runWithin budget).2.machine =
        final (whole ⟨program, limits⟩ budget main (firstMachine inputs limits.traceLimit logged)) :=
  runWithin_of_main hmain budget

end Runner

section

variable (program : Program) (inputs : List Int32) (logged : Bool) (trace : Option Nat)

/-- A run under a limit on steps and the run without it. -/
theorem stepLimit_truncates {depth budget : Nat}
    (h : ((Runner.ofProgram program inputs ⟨none, depth, trace⟩ logged).runWithin budget).1 ≠
      .error .outOfBudget) (n : Nat) :
    let free := (Runner.ofProgram program inputs ⟨none, depth, trace⟩ logged).runWithin budget
    let limited := (Runner.ofProgram program inputs ⟨some n, depth, trace⟩ logged).run
    (free.2.machine.steps ≤ n → Runner.SameRun limited free) ∧
      (n < free.2.machine.steps →
        (∃ loc, limited.1 = .error (.fault (.stepLimit n loc))) ∧
          limited.2.machine.steps = n + 1 ∧
          limited.2.machine.output.bytes.toList <+: free.2.machine.output.bytes.toList) := by
  intro free limited
  cases hmain : program.find? mainName with
  | none =>
    have hfree : free = (.error (.fault .noMain), _) := Runner.runWithin_of_no_main hmain budget
    have hlimited : limited = (.error (.fault .noMain), _) :=
      Runner.runWithin_of_no_main hmain (n + 1)
    rw [hfree, hlimited]
    exact ⟨fun _ => .of_eq rfl rfl, fun hlt => absurd hlt (Nat.not_lt_zero n)⟩
  | some main =>
    obtain ⟨hfree, hfreeMachine⟩ :=
      Runner.firstRun_of_main hmain inputs ⟨none, depth, trace⟩ logged budget
    obtain ⟨hlimited, hlimitedMachine⟩ : limited.1 = _ ∧ limited.2.machine = _ :=
      Runner.firstRun_of_main hmain inputs ⟨some n, depth, trace⟩ logged (n + 1)
    rw [hfree] at h
    obtain ⟨hle, hlt⟩ := whole_of_stepLimit
      (show (⟨program, ⟨none, depth, trace⟩⟩ : Context).program =
        (⟨program, ⟨some n, depth, trace⟩⟩ : Context).program from rfl)
      rfl rfl rfl rfl (mt outcome_eq_error_iff.mpr h)
    rw [hfreeMachine, hlimitedMachine]
    refine ⟨fun hsteps => ?_, fun hsteps => ?_⟩
    · have hsame := hle hsteps
      exact .of_eq (hlimited.trans ((congrArg outcome hsame).trans hfree.symm))
        (hlimitedMachine.trans ((congrArg final hsame).trans hfreeMachine.symm))
    · obtain ⟨⟨loc, hhalt⟩, hend, hgrown⟩ := hlt hsteps
      exact ⟨⟨loc, hlimited.trans (outcome_eq_error_iff.mpr hhalt)⟩, hend, hgrown.output⟩

/-- A run under a limit on nested calls and the run under a higher one. -/
theorem maxDepth_truncates {maxSteps : Option Nat} {depth depth' budget : Nat} (hle : depth ≤ depth')
    (h : ∀ loc, ((Runner.ofProgram program inputs ⟨maxSteps, depth, trace⟩ logged).runWithin
      budget).1 ≠ .error (.fault (.callDepth depth loc))) :
    Runner.SameRun
      ((Runner.ofProgram program inputs ⟨maxSteps, depth', trace⟩ logged).runWithin budget)
      ((Runner.ofProgram program inputs ⟨maxSteps, depth, trace⟩ logged).runWithin budget) := by
  cases hmain : program.find? mainName with
  | none =>
    rw [Runner.runWithin_of_no_main hmain, Runner.runWithin_of_no_main hmain]
    exact .of_eq rfl rfl
  | some main =>
    obtain ⟨hlow, hlowMachine⟩ :=
      Runner.firstRun_of_main hmain inputs ⟨maxSteps, depth, trace⟩ logged budget
    obtain ⟨hhigh, hhighMachine⟩ :=
      Runner.firstRun_of_main hmain inputs ⟨maxSteps, depth', trace⟩ logged budget
    have hsame := whole_of_maxDepth_le
      (show (⟨program, ⟨maxSteps, depth', trace⟩⟩ : Context).program =
        (⟨program, ⟨maxSteps, depth, trace⟩⟩ : Context).program from rfl)
      rfl hle fun loc => mt outcome_eq_error_iff.mpr (hlow ▸ h loc)
    exact .of_eq (hhigh.trans ((congrArg outcome hsame).trans hlow.symm))
      (hhighMachine.trans ((congrArg final hsame).trans hlowMachine.symm))

end

/-- Limits cut runs short and change nothing else. If a run without a limit on steps comes to an end,
then under a limit that allows for its steps it is the same, and under a lower one it ends right after
the first step too many, having printed a first part of the same output. A run that its limit on nested
calls does not stop is the same under every higher one. -/
theorem limits_only_truncate (program : Program) (inputs : List Int32) (logged : Bool)
    (trace : Option Nat) :
    (∀ depth budget : Nat,
      let free := (Runner.ofProgram program inputs ⟨none, depth, trace⟩ logged).runWithin budget
      free.1 ≠ .error .outOfBudget → ∀ n : Nat,
        let limited := (Runner.ofProgram program inputs ⟨some n, depth, trace⟩ logged).run
        (free.2.machine.steps ≤ n → Runner.SameRun limited free) ∧
          (n < free.2.machine.steps →
            (∃ loc, limited.1 = .error (.fault (.stepLimit n loc))) ∧
              limited.2.machine.steps = n + 1 ∧
              limited.2.machine.output.bytes.toList <+: free.2.machine.output.bytes.toList)) ∧
    ∀ (maxSteps : Option Nat) (depth depth' budget : Nat), depth ≤ depth' →
      let low := (Runner.ofProgram program inputs ⟨maxSteps, depth, trace⟩ logged).runWithin budget
      let high := (Runner.ofProgram program inputs ⟨maxSteps, depth', trace⟩ logged).runWithin budget
      (∀ loc, low.1 ≠ .error (.fault (.callDepth depth loc))) → Runner.SameRun high low := by
  refine ⟨?_, ?_⟩
  · intro depth budget free h n
    exact stepLimit_truncates program inputs logged trace h n
  · intro maxSteps depth depth' budget hle low high h
    exact maxDepth_truncates program inputs logged trace hle h

/-- A program that prints twice. -/
def printsTwice : Program :=
  ⟨[⟨mainName, [], .sequence [.output [.literal 1 .start] .start, .output [.literal 2 .start] .start],
    .start⟩], []⟩

/-- Two steps are enough to print twice and one step is not. -/
theorem limits_only_truncate_printsTwice :
    Runner.SameRun (Runner.ofProgram printsTwice [] ⟨some 2, 0, none⟩ false).run
        ((Runner.ofProgram printsTwice [] ⟨none, 0, none⟩ false).runWithin 3) ∧
      (∃ loc, (Runner.ofProgram printsTwice [] ⟨some 1, 0, none⟩ false).run.1 =
        .error (.fault (.stepLimit 1 loc))) ∧
      Runner.SameRun ((Runner.ofProgram printsTwice [] ⟨none, 5, none⟩ false).runWithin 3)
        ((Runner.ofProgram printsTwice [] ⟨none, 0, none⟩ false).runWithin 3) := by
  have hend : ((Runner.ofProgram printsTwice [] ⟨none, 0, none⟩ false).runWithin 3).1 = .ok () := rfl
  have hsteps : ((Runner.ofProgram printsTwice [] ⟨none, 0, none⟩ false).runWithin
    3).2.machine.steps = 2 := rfl
  obtain ⟨hlimit, hdepth⟩ := limits_only_truncate printsTwice [] false none
  have hfree := hlimit 0 3 (by rw [hend]; nofun)
  refine ⟨(hfree 2).1 (Nat.le_of_eq hsteps), ((hfree 1).2 (by rw [hsteps]; decide)).1, ?_⟩
  exact hdepth none 0 5 3 (by decide) (by rw [hend]; nofun)

end Stepwise
