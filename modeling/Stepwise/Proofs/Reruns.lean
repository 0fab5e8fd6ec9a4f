import Stepwise.Proofs.CallDepth

/-!
# What a run leaves of the program

A runner keeps its program from one run to the next, and runs it again as it is. A run ends well, or it
fails in one of the globals, or it fails in the main function, unless there is none. Only in the globals
does a failure touch the program: they are taken out of it while they run, and they are put back when the
last of them has ended. So the functions stay through all runs, while the globals stay until one of them
fails. From then on every run begins with the main function, on the machine that was left behind.

A failure comes about anywhere in the tree, and what halts there halts the whole global or the whole main
function. It is therefore enough to tell the failures apart by what a run was in.

## Main results

* `Runner.goes_runWithin`: how a run goes.
* `Runner.Goes.fails`: where a failure comes about.
* `Runner.Goes.program_of_failsInGlobals`, `Runner.Goes.program_eq`: what is left of the program.
* `globals_stay_until_one_fails`: all of this for every run after any other runs.
-/

namespace Stepwise

open Machine Exec

/-! ## Section 1: How a run goes -/

/-- An activity halts. -/
def Activity.Halts (ctx : Context) (a : Activity) (halt : Halt) : Prop :=
  halt? (a.task.action ctx a.budget a.machine) = some halt

namespace Runner

/-- How a run goes: what it comes to, and where. -/
inductive Goes (r : Runner) (budget : Nat) : Except Halt Unit × Runner → Prop where
  /-- There is no main function. -/
  | noMain (hmain : r.program.find? mainName = none) : Goes r budget (.error (.fault .noMain), r)
  /-- It fails in the globals, and they are gone. -/
  | inGlobals {main : Routine} {halt : Halt} {m : Machine}
      (hmain : r.program.find? mainName = some main)
      (hglobals : runGlobals r.context budget r.program.globals r.machine = .error halt m) :
      Goes r budget
        (.error halt, { r with program := { r.program with globals := [] }, machine := m })
  /-- It fails in the main function. -/
  | inMain {main : Routine} {halt : Halt} {m m' : Machine}
      (hmain : r.program.find? mainName = some main)
      (hglobals : runGlobals r.context budget r.program.globals r.machine = .ok () m)
      (hrun : runMain r.context budget main m = .error halt m') :
      Goes r budget (.error halt, { r with machine := m' })
  /-- It ends well. -/
  | finished {main : Routine} {m m' : Machine} (hmain : r.program.find? mainName = some main)
      (hglobals : runGlobals r.context budget r.program.globals r.machine = .ok () m)
      (hrun : runMain r.context budget main m = .ok () m') :
      Goes r budget (.ok (), { r with machine := m', finished := true })

variable {r : Runner} {budget : Nat} {run : Except Halt Unit × Runner}

theorem goes_runWithin (r : Runner) (budget : Nat) : r.Goes budget (r.runWithin budget) := by
  unfold runWithin
  cases hmain : r.program.find? mainName with
  | none => exact .noMain hmain
  | some main =>
    dsimp only
    cases hglobals : runGlobals ⟨r.program, r.limits⟩ budget r.program.globals r.machine with
    | error halt m => exact .inGlobals hmain hglobals
    | ok _ m =>
      dsimp only
      cases hrun : runMain ⟨r.program, r.limits⟩ budget main m with
      | error halt m' => exact .inMain hmain hglobals hrun
      | ok _ m' => exact .finished hmain hglobals hrun

/-! ## Section 2: Where a failure comes about -/

/-- A run comes, in one of its globals, to an activity that halts. -/
def FailsInGlobals (r : Runner) (budget : Nat) (halt : Halt) : Prop :=
  ∃ calls a, r.InGlobals budget calls a ∧ a.Halts r.context halt

/-- A run comes, in its main function, to an activity that halts. -/
def FailsInMain (r : Runner) (budget : Nat) (halt : Halt) : Prop :=
  ∃ calls a, r.InMain budget calls a ∧ a.Halts r.context halt

section

variable {ctx : Context} {m m' : Machine} {halt : Halt}

/-- Globals fail because one of them does, after those before it have ended. -/
theorem exists_of_runGlobals_error {nodes : List Node}
    (h : runGlobals ctx budget nodes m = .error halt m') :
    ∃ before node after m₁, nodes = before ++ node :: after ∧
      runGlobals ctx budget before m = .ok () m₁ ∧
      halt? (exec ctx (activate ctx budget) budget node m₁) = some halt := by
  induction nodes generalizing m with
  | nil => cases h
  | cons node nodes ih =>
    cases hnode : exec ctx (activate ctx budget) budget node m with
    | error halt' m₁ =>
      -- The first one fails, with nothing before it.
      simp only [runGlobals, bind, EStateM.bind, hnode] at h
      cases h
      exact ⟨[], node, nodes, m, rfl, rfl, congrArg halt? hnode⟩
    | ok flow m₁ =>
      rw [runGlobals, bind_of_ok hnode] at h
      obtain ⟨before, node', after, m₂, rfl, hbefore, hhalt⟩ := ih h
      refine ⟨node :: before, node', after, m₂, rfl, ?_, hhalt⟩
      rw [runGlobals, bind_of_ok hnode]
      exact hbefore

/-- If all of the globals have ended, then so have the first of them. -/
theorem exists_of_runGlobals_append {before after : List Node}
    (h : runGlobals ctx budget (before ++ after) m = .ok () m') :
    ∃ m₁, runGlobals ctx budget before m = .ok () m₁ := by
  induction before generalizing m with
  | nil => exact ⟨m, rfl⟩
  | cons node before ih =>
    rw [List.cons_append, runGlobals] at h
    obtain ⟨flow, m₁, hnode, hrest⟩ := exists_of_bind_eq_ok h
    obtain ⟨m₂, hbefore⟩ := ih hrest
    refine ⟨m₂, ?_⟩
    rw [runGlobals, bind_of_ok hnode]
    exact hbefore

/-- Around its body the main function does nothing that could fail. -/
theorem halt?_body_of_runMain {main : Routine} (h : runMain ctx budget main m = .error halt m') :
    halt? (exec ctx (activate ctx budget) budget main.body (mainMachine main m)) = some halt := by
  have hbegun : (modify fun m => { m with routine := mainName, loc := main.loc, callDepth := 1 } :
      Exec Unit) (m.noted .mainEntered) = .ok () (mainMachine main m) := rfl
  rw [runMain, bind_of_ok (note_apply _ m), bind_of_ok hbegun] at h
  cases hbody : exec ctx (activate ctx budget) budget main.body (mainMachine main m) with
  | error halt' m₁ =>
    simp only [bind, EStateM.bind, hbody] at h
    cases h
    rfl
  | ok flow m₁ =>
    rw [bind_of_ok hbody] at h
    cases flow <;> cases h

end

section

variable {halt : Halt}

/-- What halts in a global halts the globals. -/
theorem FailsInGlobals.halts (h : r.FailsInGlobals budget halt) :
    ∃ main, r.program.find? mainName = some main ∧
      halt? (runGlobals r.context budget r.program.globals r.machine) = some halt := by
  obtain ⟨calls, a, ⟨main, before, node, after, m, hmain, hglobals, hbefore, hreaches⟩, ha⟩ := h
  have hnode := hreaches.halts ha
  rw [Task.action, halt?_discard] at hnode
  refine ⟨main, hmain, ?_⟩
  rw [hglobals]
  exact halt?_runGlobals hbefore hnode

/-- What halts in the main function halts it, and the globals before it have ended. -/
theorem FailsInMain.halts (h : r.FailsInMain budget halt) :
    ∃ main m, r.program.find? mainName = some main ∧
      runGlobals r.context budget r.program.globals r.machine = .ok () m ∧
      halt? (runMain r.context budget main m) = some halt := by
  obtain ⟨calls, a, ⟨main, m, hmain, hglobals, hreaches⟩, ha⟩ := h
  have hbody := hreaches.halts ha
  rw [Task.action, halt?_discard] at hbody
  exact ⟨main, m, hmain, hglobals, halt?_runMain hbody⟩

theorem failsInGlobals_of_error {main : Routine} {m : Machine}
    (hmain : r.program.find? mainName = some main)
    (hglobals : runGlobals r.context budget r.program.globals r.machine = .error halt m) :
    r.FailsInGlobals budget halt := by
  obtain ⟨before, node, after, m₁, hnodes, hbefore, hhalt⟩ := exists_of_runGlobals_error hglobals
  refine ⟨0, ⟨budget, .statement node, m₁⟩, ?_, ?_⟩
  · exact ⟨main, before, node, after, m₁, hmain, hnodes, hbefore, .self⟩
  · rw [Activity.Halts, Task.action, halt?_discard]
    exact hhalt

theorem failsInMain_of_error {main : Routine} {m m' : Machine}
    (hmain : r.program.find? mainName = some main)
    (hglobals : runGlobals r.context budget r.program.globals r.machine = .ok () m)
    (hrun : runMain r.context budget main m = .error halt m') : r.FailsInMain budget halt := by
  refine ⟨0, ⟨budget, .statement main.body, mainMachine main m⟩, ?_, ?_⟩
  · exact ⟨main, m, hmain, hglobals, .self⟩
  · rw [Activity.Halts, Task.action, halt?_discard]
    exact halt?_body_of_runMain hrun

/-- A run that fails has no main function, or it fails in its globals or in its main function. -/
theorem Goes.fails (h : r.Goes budget run) (hfailed : run.1 = .error halt) :
    (halt = .fault .noMain ∧ r.program.find? mainName = none) ∨
      r.FailsInGlobals budget halt ∨ r.FailsInMain budget halt := by
  cases h with
  | noMain hmain =>
    cases hfailed
    exact .inl ⟨rfl, hmain⟩
  | inGlobals hmain hglobals =>
    cases hfailed
    exact .inr (.inl (failsInGlobals_of_error hmain hglobals))
  | inMain hmain hglobals hrun =>
    cases hfailed
    exact .inr (.inr (failsInMain_of_error hmain hglobals hrun))
  | finished => cases hfailed

/-! ## Section 3: What is left of the program -/

/-- The functions stay in any case. -/
theorem Goes.routines_eq (h : r.Goes budget run) :
    run.2.program.routines = r.program.routines := by
  cases h <;> rfl

/-- A failure in the globals takes them away. -/
theorem Goes.program_of_failsInGlobals (h : r.Goes budget run)
    (hfails : r.FailsInGlobals budget halt) :
    run.1 = .error halt ∧ run.2.program = ⟨r.program.routines, []⟩ := by
  obtain ⟨main, hmain, hhalts⟩ := hfails.halts
  cases h with
  | noMain hnone =>
    rw [hmain] at hnone
    cases hnone
  | inGlobals _ hglobals =>
    rw [hglobals] at hhalts
    cases hhalts
    exact ⟨rfl, rfl⟩
  | inMain _ hglobals | finished _ hglobals =>
    -- A run does not come past globals that halt.
    rw [hglobals] at hhalts
    cases hhalts

/-- Without a failure in the globals the program stays as it is. -/
theorem Goes.program_eq (h : r.Goes budget run)
    (hnone : ∀ halt, ¬ r.FailsInGlobals budget halt) : run.2.program = r.program := by
  cases h with
  | inGlobals hmain hglobals =>
    exact absurd (failsInGlobals_of_error hmain hglobals) (hnone _)
  | noMain | inMain | finished => rfl

/-- A failure in the main function is none in the globals. -/
theorem Goes.program_of_failsInMain (h : r.Goes budget run)
    (hfails : r.FailsInMain budget halt) : run.1 = .error halt ∧ run.2.program = r.program := by
  obtain ⟨main, m, hmain, hglobals, hhalts⟩ := hfails.halts
  cases h with
  | noMain hnone =>
    rw [hmain] at hnone
    cases hnone
  | inGlobals _ hglobals' =>
    -- The globals have ended, and they end in one way only.
    rw [hglobals] at hglobals'
    cases hglobals'
  | inMain hmain' hglobals' hrun =>
    cases hmain.symm.trans hmain'
    cases hglobals.symm.trans hglobals'
    rw [hrun] at hhalts
    cases hhalts
    exact ⟨rfl, rfl⟩
  | finished hmain' hglobals' hrun =>
    cases hmain.symm.trans hmain'
    cases hglobals.symm.trans hglobals'
    rw [hrun] at hhalts
    cases hhalts

end

/-! ## Section 4: One run after another -/

/-- The functions are those of the program, after any number of runs. -/
theorem Later.routines_eq {r' : Runner} (h : r.Later r') :
    r'.program.routines = r.program.routines := by
  induction h with
  | self => rfl
  | again _ budget ih => exact (goes_runWithin _ budget).routines_eq.trans ih

/-- The globals are those of the program, or they are gone. -/
theorem Later.globals_eq_or {r' : Runner} (h : r.Later r') :
    r'.program.globals = r.program.globals ∨ r'.program.globals = [] := by
  induction h with
  | self => exact .inl rfl
  | @again r₁ _ budget ih =>
    -- What a run makes of the globals depends on nothing but whether one of them fails in it.
    by_cases hfails : ∃ halt, r₁.FailsInGlobals budget halt
    · obtain ⟨halt, hfails⟩ := hfails
      rw [((goes_runWithin r₁ budget).program_of_failsInGlobals hfails).2]
      exact .inr rfl
    · have hnone : ∀ halt, ¬ r₁.FailsInGlobals budget halt := fun halt h => hfails ⟨halt, h⟩
      rw [(goes_runWithin r₁ budget).program_eq hnone]
      exact ih

/-- Globals that are gone do not come back. -/
theorem Later.program_of_no_globals {r' : Runner} {routines : List Routine} (h : r.Later r')
    (hr : r.program = ⟨routines, []⟩) : r'.program = ⟨routines, []⟩ := by
  have hroutines := h.routines_eq
  have hglobals : r'.program.globals = [] := by
    rcases h.globals_eq_or with heq | hnil
    · rw [heq, hr]
    · exact hnil
  rw [hr] at hroutines
  calc r'.program = ⟨r'.program.routines, r'.program.globals⟩ := rfl
    _ = ⟨routines, []⟩ := by rw [hroutines, hglobals]

/-- A run without globals begins with the main function, on the machine as it is. -/
theorem Starts.of_no_globals {a : Activity} (h : r.Starts budget a) (hr : r.program.globals = []) :
    ∃ main, r.program.find? mainName = some main ∧
      a = ⟨budget, .statement main.body, mainMachine main r.machine⟩ := by
  cases h with
  | global _ hglobals =>
    rw [hr] at hglobals
    simp at hglobals
  | main hmain hglobals =>
    rw [hr] at hglobals
    cases hglobals
    exact ⟨_, hmain, rfl⟩

/-- A run that has come to its main function has begun each of the globals. -/
theorem InMain.begun_globals {calls : Nat} {a : Activity} (h : r.InMain budget calls a) {node : Node}
    (hnode : node ∈ r.program.globals) :
    ∃ m, r.InGlobals budget 0 ⟨budget, .statement node, m⟩ := by
  obtain ⟨main, m, hmain, hglobals, -⟩ := h
  -- All globals have ended, and so those before this one have; it began on the machine that they left.
  obtain ⟨before, after, hsplit⟩ := List.append_of_mem hnode
  rw [hsplit] at hglobals
  obtain ⟨m₁, hbefore⟩ := exists_of_runGlobals_append hglobals
  exact ⟨m₁, main, before, node, after, m₁, hmain, hsplit, hbefore, .self⟩

end Runner

/-- The functions of a program stay through all runs, and its globals stay until one of them fails. A run
that halts anywhere in a global fails with that, and leaves the functions without globals: after it, and
after any more runs, a run begins nothing but the main function, on the machine as the run before has left
it. Any other run leaves the program as it is, in particular one that halts anywhere in its main function,
and a run after it does not come to the main function before each of the globals has been begun again.
There is no other failure, but that there is no main function. -/
theorem globals_stay_until_one_fails (program : Program) (inputs : List Int32) (limits : Limits)
    (logged : Bool) (r : Runner) (hr : (Runner.ofProgram program inputs limits logged).Later r)
    (budget : Nat) :
    let run := r.runWithin budget
    run.2.program.routines = program.routines ∧
    (r.program.globals = program.globals ∨ r.program.globals = []) ∧
    (∀ halt, r.FailsInGlobals budget halt → run.1 = .error halt ∧
      ∀ r', run.2.Later r' → r'.program = ⟨program.routines, []⟩ ∧
        ∀ budget' a, r'.Starts budget' a → ∃ main, program.find? mainName = some main ∧
          a = ⟨budget', .statement main.body, Runner.mainMachine main r'.machine⟩) ∧
    ((∀ halt, ¬ r.FailsInGlobals budget halt) → run.2.program = r.program ∧
      ∀ budget' calls a, run.2.InMain budget' calls a → ∀ node ∈ r.program.globals,
        ∃ m, run.2.InGlobals budget' 0 ⟨budget', .statement node, m⟩) ∧
    (∀ halt, r.FailsInMain budget halt → run.1 = .error halt ∧ run.2.program = r.program) ∧
    ∀ halt, run.1 = .error halt → (halt = .fault .noMain ∧ program.find? mainName = none) ∨
      r.FailsInGlobals budget halt ∨ r.FailsInMain budget halt := by
  intro run
  have hgoes : r.Goes budget run := Runner.goes_runWithin r budget
  have hroutines : r.program.routines = program.routines := hr.routines_eq
  have hfind : r.program.find? mainName = program.find? mainName := by
    rw [Program.find?, hroutines, Program.find?]
  refine ⟨hgoes.routines_eq.trans hroutines, hr.globals_eq_or, ?_, ?_, ?_, ?_⟩
  · intro halt hfails
    obtain ⟨houtcome, hprogram⟩ := hgoes.program_of_failsInGlobals hfails
    rw [hroutines] at hprogram
    refine ⟨houtcome, fun r' hlater => ?_⟩
    have hprogram' : r'.program = ⟨program.routines, []⟩ := hlater.program_of_no_globals hprogram
    refine ⟨hprogram', fun budget' a hstarts => ?_⟩
    obtain ⟨main, hmain, rfl⟩ := hstarts.of_no_globals (by rw [hprogram'])
    rw [hprogram'] at hmain
    exact ⟨main, hmain, rfl⟩
  · intro hnone
    have hprogram := hgoes.program_eq hnone
    refine ⟨hprogram, fun budget' calls a hin node hnode => ?_⟩
    apply hin.begun_globals
    rw [hprogram]
    exact hnode
  · exact fun halt hfails => hgoes.program_of_failsInMain hfails
  · intro halt hfailed
    rw [← hfind]
    exact hgoes.fails hfailed

/-- A program that divides by zero for the first value of a variable outside functions. -/
def dividesForGlobal : Program :=
  ⟨[⟨mainName, [], .empty, .start⟩],
    [.declaration "g" .start, .assignment (.plain "g" .start)
      (.binary .div (.literal 1 .start) (.literal 0 .start) .start) .start]⟩

/-- Its run halts at the division, which is a part of the second global. -/
theorem dividesForGlobal_fails :
    (Runner.ofProgram dividesForGlobal [] ⟨none, 0, none⟩ false).FailsInGlobals 1
      (.fault (.divisionByZero .start)) :=
  ⟨_, _, ⟨_, [_], _, [], _, rfl, rfl, rfl, .begins (.begins .self (.alone rfl rfl)) .assigned⟩, rfl⟩

/-- The division by zero ends the first run. The second one does not come to it, and ends well. -/
theorem globals_stay_until_one_fails_dividesForGlobal :
    let run := (Runner.ofProgram dividesForGlobal [] ⟨none, 0, none⟩ false).runWithin 1
    run.1 = .error (.fault (.divisionByZero .start)) ∧
      run.2.program = ⟨dividesForGlobal.routines, []⟩ ∧ (run.2.runWithin 1).1 = .ok () := by
  intro run
  obtain ⟨-, -, hfails, -⟩ :=
    globals_stay_until_one_fails dividesForGlobal [] ⟨none, 0, none⟩ false _ .self 1
  obtain ⟨houtcome, hlater⟩ := hfails _ dividesForGlobal_fails
  exact ⟨houtcome, (hlater _ .self).1, rfl⟩

/-- So a failed run does not leave every program as it was. -/
theorem failed_runs_change_programs :
    ¬ ∀ (program : Program) (inputs : List Int32) (limits : Limits) (logged : Bool) (budget : Nat)
      (fault : Fault),
      ((Runner.ofProgram program inputs limits logged).runWithin budget).1 = .error (.fault fault) →
        ((Runner.ofProgram program inputs limits logged).runWithin budget).2.program = program := by
  intro hkept
  have hprogram := hkept dividesForGlobal [] ⟨none, 0, none⟩ false 1 (.divisionByZero .start) rfl
  have hglobals : [] = dividesForGlobal.globals := congrArg Program.globals hprogram
  cases hglobals

end Stepwise
