import Stepwise.Proofs.Termination

/-!
# Comparing runs

Many statements about runs compare two of them: with a limit and without it, with a trace and without
it, with more to read and with less. A sound coupling compares them within one budget. Here the budgets
are taken away: if one runner foreruns another within every budget, then the runs that end are compared
by themselves.

## Main results

* `Coupling.Sound.runWithin`: what a sound coupling says about whole runs.
* `Coupling.Sound.foreruns`: a sound coupling of two runners of one program.
* `Runner.Foreruns.sameRun`: an end that is no escape is the end of the other run.
* `Runner.Foreruns.grown`: at an escape, what has been printed is a part of what the other run prints.
-/

namespace Stepwise

open Machine Exec

/-- Machines of which one sees the same. -/
structure Machine.SameSight (m m' : Machine) : Prop where
  output : m'.output = m.output
  steps : m'.steps = m.steps
  consumed : m'.pool.consumed = m.pool.consumed
  store : m'.store = m.store

theorem Machine.SameSight.sameRun {run run' : Except Halt Unit × Runner}
    (h : run.2.machine.SameSight run'.2.machine) (houtcome : run.1 = run'.1) :
    Runner.SameRun run run' := by
  refine ⟨houtcome, h.output.symm, h.steps.symm, h.consumed.symm, fun key => ?_⟩
  unfold Runner.global
  rw [h.store]

/-- Within every budget the second runner does what the first one does, unless the first one halts at
an escape. Then it has printed a first part of what the second one prints. -/
def Runner.Foreruns (r : Runner) (escapes : Halt → Prop) (r' : Runner) : Prop :=
  ∀ budget, SameRun (r.runWithin budget) (r'.runWithin budget) ∨
    ∃ halt, (r.runWithin budget).1 = .error halt ∧ escapes halt ∧
      (r.runWithin budget).2.machine.Grown (r'.runWithin budget).2.machine

/-- A sound coupling compares runs: they end alike with machines that correspond, or the first one ends
at an escape. -/
theorem Coupling.Sound.runWithin {C : Coupling} {r r' : Runner} (hC : C.Sound r.context r'.context)
    (hglobals : r'.program.globals = relabelAll C.relabeling r.program.globals)
    (hmains : r'.program.find? mainName =
      (r.program.find? mainName).map (Routine.relabel C.relabeling))
    (hm : C.alike r.machine r'.machine) (budget : Nat) :
    (r'.runWithin budget).1 = (r.runWithin budget).1.mapError (Halt.relabel C.relabeling) ∧
        C.alike (r.runWithin budget).2.machine (r'.runWithin budget).2.machine ∨
      ∃ halt, (r.runWithin budget).1 = .error halt ∧ C.escapes halt ∧
        (r.runWithin budget).2.machine.Grown (r'.runWithin budget).2.machine := by
  cases hmain : r.program.find? mainName with
  | none =>
    have hmain' : r'.program.find? mainName = none := by rw [hmains, hmain, Option.map_none]
    rw [Runner.runWithin_of_no_main hmain, Runner.runWithin_of_no_main hmain']
    exact .inl ⟨rfl, hm⟩
  | some main =>
    have hmain' : r'.program.find? mainName = some (main.relabel C.relabeling) := by
      rw [hmains, hmain, Option.map_some]
    obtain ⟨hrun, hmachine⟩ := Runner.runWithin_of_main hmain budget
    obtain ⟨hrun', hmachine'⟩ := Runner.runWithin_of_main hmain' budget
    have hbudget : C.Affords budget budget := .inl rfl
    have hwhole := (hC.simulates_whole hbudget hglobals main).agrees hm
    rw [hrun, hrun', hmachine, hmachine']
    generalize Runner.whole r.context budget main r.machine = result at hwhole
    generalize Runner.whole r'.context budget (main.relabel C.relabeling) r'.machine = result'
      at hwhole
    cases hwhole with
    | ok _ hm => exact .inl ⟨rfl, hm⟩
    | error hm => exact .inl ⟨rfl, hm⟩
    | escape hhalt hm => exact .inr ⟨_, rfl, hhalt, hm⟩

/-- A sound coupling of machines of which one sees the same compares the runs of one program. -/
theorem Coupling.Sound.foreruns {C : Coupling} {r r' : Runner} (hC : C.Sound r.context r'.context)
    (hlabels : C.relabeling = .same) (hsight : ∀ {m m'}, C.alike m m' → m.SameSight m')
    (hprogram : r'.program = r.program) (hm : C.alike r.machine r'.machine) :
    r.Foreruns C.escapes r' := by
  intro budget
  have hglobals : r'.program.globals = relabelAll C.relabeling r.program.globals := by
    rw [hlabels, relabelAll_same, hprogram]
  have hmains : r'.program.find? mainName =
      (r.program.find? mainName).map (Routine.relabel C.relabeling) := by
    rw [hlabels, hprogram, funext Routine.relabel_same]
    exact Option.map_id'.symm
  refine (hC.runWithin hglobals hmains hm budget).imp_left fun ⟨houtcome, hm⟩ => ?_
  rw [hlabels, funext Halt.relabel_same] at houtcome
  refine (hsight hm).sameRun ?_
  rw [houtcome]
  cases (r.runWithin budget).1 <;> rfl

namespace Runner.Foreruns

variable {r r' : Runner} {escapes : Halt → Prop} (h : r.Foreruns escapes r')
include h

/-- A run that ends otherwise than at an escape is the other run in all that one sees of it. -/
theorem sameRun {run : Except Halt Unit × Runner} (hends : r.Ends run)
    (hescapes : ∀ halt, run.1 = .error halt → ¬ escapes halt) :
    ∃ run', r'.Ends run' ∧ SameRun run run' := by
  obtain ⟨hended, budget, rfl⟩ := hends
  rcases h budget with hsame | ⟨halt, hhalt, hescape, -⟩
  · refine ⟨_, ⟨?_, budget, rfl⟩, hsame⟩
    rw [← hsame.outcome]
    exact hended
  · exact absurd hescape (hescapes halt hhalt)

/-- From some budget on, the other run prints what the run has printed, and more. -/
theorem exists_grown {run : Except Halt Unit × Runner} (hends : r.Ends run) :
    ∃ enough, ∀ budget, enough ≤ budget →
      run.2.machine.Grown (r'.runWithin budget).2.machine := by
  obtain ⟨hended, enough, rfl⟩ := hends
  refine ⟨enough, fun budget hle => ?_⟩
  rw [← runWithin_stable hle hended]
  rcases h budget with hsame | ⟨_, -, -, hgrown⟩
  · exact ⟨hsame.output ▸ List.prefix_rfl, Nat.le_of_eq hsame.steps⟩
  · exact hgrown

theorem grown {run run' : Except Halt Unit × Runner} (hends : r.Ends run) (hends' : r'.Ends run') :
    run.2.machine.Grown run'.2.machine := by
  obtain ⟨enough, hgrown⟩ := h.exists_grown hends
  obtain ⟨hended', budget, rfl⟩ := hends'
  -- The other run is what it is within any budget that is enough for both.
  rw [← runWithin_stable (Nat.le_max_right enough budget) hended']
  exact hgrown _ (Nat.le_max_left enough budget)

/-- Where the other run ends, the run ends, unless running out of a budget is an escape. -/
theorem exists_ends (hescapes : ¬ escapes .outOfBudget) {run' : Except Halt Unit × Runner}
    (hends' : r'.Ends run') : ∃ run, r.Ends run := by
  obtain ⟨hended, budget, rfl⟩ := hends'
  refine ⟨_, ?_, budget, rfl⟩
  rcases h budget with hsame | ⟨halt, hhalt, hescape, -⟩
  · rw [hsame.outcome]
    exact hended
  · rw [hhalt]
    rintro ⟨⟩
    exact hescapes hescape

end Runner.Foreruns

end Stepwise
