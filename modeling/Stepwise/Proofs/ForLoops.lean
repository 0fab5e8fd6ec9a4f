import Stepwise.Proofs.Bookkeeping
import Stepwise.Proofs.Termination

/-!
# For loops and while loops

A for loop is a while loop behind its start, with the step at the end of the body. The two loops do not
count the same steps, since the for loop is arrived at before its start and the while loop after it, and
since the step of a while loop is a statement of its own. Without a limit on steps and without a trace
this is bookkeeping, and everything else agrees: a value that is returned from the start or from the
body leaves both loops at once, and a fault halts both of them where it is raised.

The two loops agree round by round, and so they need the same budget. Either no budget is enough for
both of them, or they end in the same way.

## Main results

* `oneRound_sequence`: a round whose body ends with the step is a round with that step.
* `parallel_forLoop`: the two loops end alike under every budget.
* `Node.Ends.unique`: a statement ends in one way only.
* `for_is_while_with_step`: a for loop ends if and as the while loop does.
-/

namespace Stepwise

open Machine Exec

/-! ## Section 1: How a statement ends -/

/-- What a statement gives or why it halts, and the machine that it leaves behind without its
bookkeeping. -/
abbrev Ending : Type :=
  Except Halt Flow × Machine

/-- The machine with no step counted, at the start of the text. -/
def Machine.cleared (m : Machine) : Machine :=
  { m with steps := 0, loc := .start }

/-- How an action has ended. -/
def Exec.ending : EStateM.Result Halt Machine Flow → Ending
  | .ok flow m => (.ok flow, m.cleared)
  | .error halt m => (.error halt, m.cleared)

/-- The statement comes to an end, whatever budget that takes, and this is how. -/
def Node.Ends (ctx : Context) (node : Node) (m : Machine) (e : Ending) : Prop :=
  e.1 ≠ .error .outOfBudget ∧
    ∃ budget, ending (exec ctx (activate ctx budget) budget node m) = e

theorem Exec.Agrees.ending_eq {placed : Bool} {result result' : EStateM.Result Halt Machine Flow}
    (h : Agrees placed result result') : ending result = ending result' := by
  cases h with
  | ok h =>
    obtain ⟨steps, loc, -, -⟩ := h
    rfl
  | error h =>
    obtain ⟨steps, loc, -, -⟩ := h
    rfl

theorem Exec.halt?_ne_of_ending {result : EStateM.Result Halt Machine Flow}
    (h : (ending result).1 ≠ .error .outOfBudget) : halt? result ≠ some .outOfBudget := by
  cases result with
  | ok flow m => nofun
  | error halt m =>
    intro hhalt
    cases hhalt
    exact h rfl

/-- A statement that comes to an end does the same under every higher budget. -/
theorem exec_stable {ctx : Context} {budget budget' : Nat} (hle : budget ≤ budget') {node : Node}
    {m : Machine}
    (h : halt? (exec ctx (activate ctx budget) budget node m) ≠ some .outOfBudget) :
    exec ctx (activate ctx budget') budget' node m = exec ctx (activate ctx budget) budget node m := by
  have hsound := budget_sound ctx
  have hafford : (Coupling.same (· = .outOfBudget)).Affords budget budget' := .inr ⟨hle, rfl⟩
  have hsimulates := hsound.simulates_exec (hsound.simulates_activate hafford) hafford node
  rw [show node.relabel (Coupling.same (· = .outOfBudget)).relabeling = node from
    node.relabel_same] at hsimulates
  exact hsimulates.eq_of_not_cut h

/-- A statement ends in one way only. -/
theorem Node.Ends.unique {ctx : Context} {node : Node} {m : Machine} {e e' : Ending}
    (h : node.Ends ctx m e) (h' : node.Ends ctx m e') : e = e' := by
  obtain ⟨he, budget, rfl⟩ := h
  obtain ⟨he', budget', rfl⟩ := h'
  -- Both runs are the one under the greater of the two budgets.
  rw [← exec_stable (Nat.le_max_left budget budget') (halt?_ne_of_ending he),
    ← exec_stable (Nat.le_max_right budget budget') (halt?_ne_of_ending he')]

/-! ## Section 2: A while loop in place of a for loop -/

/-- A condition for a while loop: a condition that has been left out always holds. -/
def Node.orOne (condition : Node) (loc : Location) : Node :=
  if condition.isEmpty then .literal 1 loc else condition

/-- The start and then a while loop whose body ends with the step. The loop and a condition that has to
be made up can have any places. -/
def Node.asWhile (init condition step body : Node) (loc conditionLoc : Location) : Node :=
  .sequence [init, .whileLoop (condition.orOne conditionLoc) (.sequence [body, step]) loc]

theorem Node.IsValue.standsAlone {node : Node} (h : node.IsValue) : node.standsAlone := by
  cases h <;> rfl

section

variable {ctx : Context} {enter : Enter} {budget : Nat}

theorem execAll_pair (first second : Node) :
    execAll ctx enter budget [first, second] = (do
      match ← exec ctx enter budget first with
      | .normal => exec ctx enter budget second
      | .returned value => return .returned value) := by
  have hsingle : execAll ctx enter budget [second] = exec ctx enter budget second := by
    rw [execAll]
    refine (bind_congr fun flow => ?_).trans (bind_pure _)
    cases flow <;> rfl
  rw [execAll]
  refine bind_congr fun flow => ?_
  cases flow with
  | normal => exact hsingle
  | returned value => rfl

/-- A round whose body ends with the step is a round with that step, for which it is arrived at: when
the body has returned a value, neither takes the step. -/
theorem oneRound_sequence {body step : Node} (hstep : step.standsAlone) :
    oneRound (exec ctx enter budget (.sequence [body, step])) (return) =
      oneRound (exec ctx enter budget body) (do
        arrive ctx step
        let _ ← eval ctx enter step) := by
  rw [exec, execAll_pair, exec_of_standsAlone hstep, oneRound, oneRound, bind_assoc]
  refine bind_congr fun flow => ?_
  cases flow with
  | returned value => rfl
  | normal => simp only [bind_assoc, pure_bind]

/-- A for loop goes on if and only if the while loop in its place does. -/
theorem parallel_goesOn (ctx : Context)
    (henter : ∀ routine args loc, Oblivious false false (enter routine args loc)) {condition : Node}
    (hcondition : condition.IsValue) (loc : Location) :
    Parallel false false (goesOn ctx enter condition) (holds ctx enter (condition.orOne loc)) := by
  unfold goesOn Node.orOne
  split
  · exact .pure true
  · exact oblivious_holds henter (.inr hcondition)

variable (hlimit : ctx.limits.maxSteps = none)
  (henter : ∀ p routine args loc, Oblivious p p (enter routine args loc))
include hlimit henter

/-- The rounds of the two loops. -/
theorem parallel_oneRound_forLoop (budget : Nat) {step : Node} (hstep : step.IsValue)
    (body : Node) :
    Parallel false false
      (oneRound (exec ctx enter budget body) (do let _ ← eval ctx enter step))
      (oneRound (exec ctx enter budget (.sequence [body, step])) (return)) := by
  have heval : Oblivious false false (do let _ ← eval ctx enter step : Exec Unit) :=
    (oblivious_eval (henter false) step (.inr hstep)).bind fun _ => .pure ()
  rw [oneRound_sequence hstep.standsAlone]
  exact parallel_oneRound (oblivious_exec hlimit (henter true) budget body false)
    (parallel_arrive hlimit step heval)

/-- The two loops end alike under every budget. -/
theorem parallel_forLoop (budget : Nat) {condition step : Node} (hcondition : condition.IsValue)
    (hstep : step.IsValue) (init body : Node) (loc whileLoc conditionLoc : Location) :
    Parallel true false (exec ctx enter budget (.forLoop init condition step body loc))
      (exec ctx enter budget (.asWhile init condition step body whileLoc conditionLoc)) := by
  have hrounds := parallel_rounds hlimit (parallel_goesOn ctx (henter false) hcondition conditionLoc)
    (parallel_oneRound_forLoop hlimit henter budget hstep body) budget
  -- The for loop is arrived at before its start, and the while loop behind it.
  rw [Node.asWhile, show exec ctx enter budget (.sequence [_, _]) = _ from execAll_pair _ _]
  refine arrive_parallel hlimit _ ((oblivious_exec hlimit (henter true) budget init false).bind ?_)
  intro flow
  cases flow with
  | returned value => exact .pure (Flow.returned value)
  | normal => exact parallel_arrive hlimit _ hrounds

end

/-! ## Section 3: Ending alike -/

/-- A for loop whose condition and step are expressions, whatever its start and its body are, ends if
and as the while loop does that has the step at the end of its body. Without a limit on steps and
without a trace, either both of them do not come to an end, or both come to one, with the same flow or
the same halt, and on machines that have everything but the bookkeeping in common. -/
theorem for_is_while_with_step (ctx : Context) (hlimit : ctx.limits.maxSteps = none) (m : Machine)
    (hhistory : m.history = none) {condition step : Node} (hcondition : condition.IsValue)
    (hstep : step.IsValue) (init body : Node) (loc whileLoc conditionLoc : Location) :
    let forLoop : Node := .forLoop init condition step body loc
    let whileLoop : Node := .asWhile init condition step body whileLoc conditionLoc
    ((¬ ∃ e, forLoop.Ends ctx m e) ∧ ¬ ∃ e, whileLoop.Ends ctx m e) ∨
      ∃ e, (∀ e', forLoop.Ends ctx m e' ↔ e' = e) ∧ ∀ e', whileLoop.Ends ctx m e' ↔ e' = e := by
  intro forLoop whileLoop
  have hending : ∀ budget, ending (exec ctx (activate ctx budget) budget forLoop m) =
      ending (exec ctx (activate ctx budget) budget whileLoop m) := by
    intro budget
    have hparallel := parallel_forLoop hlimit (oblivious_activate hlimit budget) budget hcondition
      hstep init body loc whileLoc conditionLoc
    exact (hparallel.agrees (.refl hhistory true)).ending_eq
  have hsame : ∀ e, forLoop.Ends ctx m e ↔ whileLoop.Ends ctx m e := by
    intro e
    unfold Node.Ends
    -- Each budget gives both loops the same ending, so it is enough for both or for neither.
    simp only [hending]
  by_cases hends : ∃ e, forLoop.Ends ctx m e
  · obtain ⟨e, he⟩ := hends
    have hfor : ∀ e', forLoop.Ends ctx m e' ↔ e' = e := fun e' =>
      ⟨fun he' => he'.unique he, fun heq => heq ▸ he⟩
    exact .inr ⟨e, hfor, fun e' => (hsame e').symm.trans (hfor e')⟩
  · exact .inl ⟨hends, fun ⟨e, he⟩ => hends ⟨e, (hsame e).mpr he⟩⟩

/-- `if (i == 2) return i;` -/
def returnAtTwo : Node :=
  .ifElse (.binary .eq (.var (.plain "i" .start)) (.literal 2 .start) .start)
    (.giveBack (.var (.plain "i" .start)) .start) none .start

/-- `i = i + 1` -/
def increment : Node :=
  .assignment (.plain "i" .start)
    (.binary .add (.var (.plain "i" .start)) (.literal 1 .start) .start) .start

theorem isValue_increment : increment.IsValue := by
  have hname : IsName "i" := by
    refine ⟨by decide, fun c hc => ?_, fun c hc => ?_⟩
    · obtain rfl : c = 'i' := by simpa using hc
      decide
    · obtain rfl : 'i' = c := by simpa using hc
      decide
  have hvar : (Node.var (.plain "i" .start)).IsValue := .var hname nofun
  exact .assignment hvar (.binary hvar (.literal (by decide)))

/-- `for (;; i = i + 1) if (i == 2) return i;` -/
theorem for_is_while_with_step_returnAtTwo :
    let ctx : Context := ⟨⟨[], []⟩, ⟨none, 0, none⟩⟩
    let m : Machine := { pool := .ofList [] }
    ∃ e, e.1 = .ok (.returned 2) ∧
      (Node.forLoop (.sequence []) .empty increment returnAtTwo .start).Ends ctx m e ∧
      (Node.asWhile (.sequence []) .empty increment returnAtTwo .start .start).Ends ctx m e := by
  intro ctx m
  have hrun : (ending (exec ctx (activate ctx 3) 3
      (.forLoop (.sequence []) .empty increment returnAtTwo .start) m)).1 = .ok (.returned 2) := by
    rfl
  have hends : (Node.forLoop (.sequence []) .empty increment returnAtTwo .start).Ends ctx m _ :=
    ⟨by rw [hrun]; nofun, 3, rfl⟩
  rcases for_is_while_with_step ctx rfl m rfl .empty isValue_increment (.sequence []) returnAtTwo
    .start .start .start with ⟨hfor, -⟩ | ⟨e, hfor, hwhile⟩
  · exact absurd ⟨_, hends⟩ hfor
  · have he := (hfor _).mp hends
    exact ⟨e, he ▸ hrun, (hfor e).mpr rfl, (hwhile e).mpr rfl⟩

end Stepwise
