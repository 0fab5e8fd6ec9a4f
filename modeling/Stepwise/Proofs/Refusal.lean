import Stepwise.Proofs.Activity
import Stepwise.Proofs.Shape

/-!
# Programs that have been read are never refused

Evaluation refuses a statement that stands where a value is needed. In a well-shaped program there is
none, and evaluation never comes by one: expressions lead to expressions, statements to their parts,
and calls to the bodies of the program's own functions. So no run of a program that has been read ends
in this fault.

## Main results

* `unrefused_eval`, `unrefused_exec`: evaluation of a well-shaped tree, if calls refuse nothing.
* `unrefused_activate`: calls of a well-shaped program.
* `read_programs_never_refused`: what this means for programs that have been read.
-/

namespace Stepwise

open Machine Exec

/-! ## Section 1: Actions that refuse nothing -/

/-- A change that is no refusal of a statement as a value. -/
def Unrefused : Change := fun _ halt _ =>
  ∀ label loc, halt ≠ some (.fault (.statementAsValue label loc))

/-- An action that gives a value has refused nothing. -/
theorem unrefused_none (m m' : Machine) : Unrefused m none m' :=
  fun _ _ => nofun

theorem unrefused_closed : Unrefused.Closed :=
  ⟨fun m => unrefused_none m m, fun _ h => h⟩

section

variable {α β : Type}

theorem unrefused_pure (a : α) : Obeys Unrefused (pure a : Exec α) :=
  .pure unrefused_closed a

/-- One action after another refuses nothing, whatever the first one gives. -/
theorem unrefused_bind {x : Exec α} {f : α → Exec β} (hx : Obeys Unrefused x)
    (hf : ∀ a, Obeys Unrefused (f a)) : Obeys Unrefused (x >>= f) :=
  .bind unrefused_closed hx hf

/-- Any other fault is no refusal. -/
theorem unrefused_fail {fault : Fault} (h : ∀ label loc, fault ≠ .statementAsValue label loc) :
    Obeys Unrefused (fail fault : Exec α) := by
  intro m label loc heq
  cases heq
  exact h label loc rfl

/-- Counting a step may fail, but by the limit on steps. -/
theorem unrefused_tick (ctx : Context) : Obeys Unrefused (tick ctx) := by
  intro m
  rw [tick_apply]
  split
  · exact unrefused_none _ _
  · split
    · exact fun _ _ => nofun
    · exact unrefused_none _ _

/-- Adding a record may fail, but by the limit on the trace. -/
theorem unrefused_record (label : String) : Obeys Unrefused (record label) := by
  intro m
  unfold record
  split
  · exact unrefused_none _ _
  · dsimp only
    split
    · exact fun _ _ => nofun
    · exact unrefused_none _ _

/-- Taking an input may fail, but because there is none left. -/
theorem unrefused_next (loc : Location) : Obeys Unrefused (next loc) := by
  intro m
  unfold next
  split
  · exact unrefused_none _ _
  · exact fun _ _ => nofun

theorem unrefused_modify (f : Machine → Machine) : Obeys Unrefused (modify f) :=
  fun m => unrefused_none m (f m)

theorem unrefused_arrive (ctx : Context) (node : Node) : Obeys Unrefused (arrive ctx node) := by
  have hcount : Obeys Unrefused (do tick ctx; record node.label) :=
    unrefused_bind (unrefused_tick ctx) fun _ => unrefused_record node.label
  unfold arrive
  cases node.loc? with
  | none => exact hcount
  | some loc => exact unrefused_bind (unrefused_modify _) fun _ => hcount

/-- What is done afterwards in any case does not change how an action halts. -/
theorem unrefused_andThen {x : Exec α} (hx : Obeys Unrefused x) (after : Machine → Machine) :
    Obeys Unrefused (andThen x after) := by
  intro m
  rw [halt?_andThen]
  exact hx m

theorem unrefused_inScope {x : Exec α} (hx : Obeys Unrefused x) :
    Obeys Unrefused (inScope x) := by
  intro m
  rw [inScope_apply]
  exact unrefused_andThen (unrefused_bind (unrefused_modify _) fun _ => hx) _ m.opened

theorem unrefused_inCall (routine : String) {x : Exec α} (hx : Obeys Unrefused x) :
    Obeys Unrefused (inCall routine x) := by
  intro m
  rw [inCall_apply]
  exact unrefused_andThen hx _ (m.called routine)

end

/-! ## Section 2: Expressions -/

variable {ctx : Context} {enter : Enter}

/-- Calls of the functions of a program refuse nothing. -/
def EntersUnrefused (ctx : Context) (enter : Enter) : Prop :=
  ∀ {callee : String} {routine : Routine}, ctx.program.find? callee = some routine →
    ∀ args loc, Obeys Unrefused (enter routine args loc)

mutual

/-- The evaluation of a value refuses nothing, if calls do not. -/
theorem unrefused_eval (henter : EntersUnrefused ctx enter) :
    ∀ node : Node, node.IsValue → Obeys Unrefused (eval ctx enter node)
  | .empty, _ => unrefused_pure 0
  | .endl _, _ => unrefused_pure 0
  | .literal value _, _ => unrefused_pure value
  | .var ref, h =>
    unrefused_bind (unrefused_slot henter ref h) fun _ => .get_bind fun _ => unrefused_pure _
  | .assignment target value _, .assignment htarget hvalue =>
    unrefused_bind (unrefused_eval henter value hvalue) fun v =>
      unrefused_bind (unrefused_slot henter target htarget) fun _ =>
        unrefused_bind (unrefused_modify _) fun _ => unrefused_pure v
  | .unary _ operand _, .unary hoperand =>
    unrefused_bind (unrefused_eval henter operand hoperand) fun _ => unrefused_pure _
  -- Only a division by zero has no value, and that fault is another one.
  | .binary op left right loc, .binary hleft hright =>
    unrefused_bind (unrefused_eval henter left hleft) fun x =>
      unrefused_bind (unrefused_eval henter right hright) fun y => by
        cases op.apply? x y with
        | some value => exact unrefused_pure value
        | none => exact unrefused_fail (fun _ _ => nofun)
  | .call callee args loc, .call _ hargs => by
    rcases eval_call_cases ctx enter callee args loc with
      ⟨arg, rfl, rfl⟩ | ⟨routine, hname, hfind, hcount⟩ | ⟨fault, hfault, hrefused⟩
    · -- Putting a byte: the one argument is a value.
      rw [eval_putchar]
      refine unrefused_bind (unrefused_eval henter arg (hargs arg (by simp))) fun value => ?_
      exact unrefused_bind (unrefused_modify _) fun _ => unrefused_pure value
    · -- The function that is entered is the one that the name stands for.
      rw [eval_call hname hfind hcount]
      exact unrefused_bind (unrefused_evalAll henter args hargs) fun values =>
        henter hfind values loc
    · -- The faults that refuse a call are others.
      rw [hrefused]
      exact unrefused_fail fun _ _ hstatement => by
        subst hstatement
        cases hfault
  | .input targets loc, .input htargets =>
    unrefused_bind (unrefused_readAll henter loc targets htargets) fun _ => unrefused_pure 0
  | .output items _, .output hitems =>
    unrefused_bind (unrefused_printAll henter items hitems) fun _ => unrefused_pure 0

/-- Values one after the other. -/
theorem unrefused_evalAll (henter : EntersUnrefused ctx enter) :
    ∀ nodes : List Node, (∀ node ∈ nodes, node.IsValue) → Obeys Unrefused (evalAll ctx enter nodes)
  | [], _ => unrefused_pure []
  | node :: nodes, h =>
    unrefused_bind (unrefused_eval henter node (h node List.mem_cons_self)) fun value =>
      unrefused_bind (unrefused_evalAll henter nodes fun n hn => h n (List.mem_cons_of_mem _ hn))
        fun values => unrefused_pure (value :: values)

/-- The indices of a variable are values. -/
theorem unrefused_slot (henter : EntersUnrefused ctx enter) :
    ∀ ref : Reference Node, (Node.var ref).IsValue → Obeys Unrefused (slot ctx enter ref)
  | ⟨_, indices, _⟩, .var _ hindices =>
    unrefused_bind (unrefused_evalAll henter indices hindices) fun _ => unrefused_pure _

/-- Targets of input are variables, so that their indices are values. -/
theorem unrefused_readAll (henter : EntersUnrefused ctx enter) (loc : Location) :
    ∀ targets : List (Reference Node), (∀ target ∈ targets, (Node.var target).IsValue) →
      Obeys Unrefused (readAll ctx enter loc targets)
  | [], _ => unrefused_pure ()
  | target :: targets, h =>
    unrefused_bind (unrefused_slot henter target (h target List.mem_cons_self)) fun _ =>
      unrefused_bind (unrefused_next loc) fun _ => unrefused_bind (unrefused_modify _) fun _ =>
        unrefused_readAll henter loc targets fun t ht => h t (List.mem_cons_of_mem _ ht)

/-- Items are values or ends of lines, and the latter are not evaluated. -/
theorem unrefused_printAll (henter : EntersUnrefused ctx enter) :
    ∀ items : List Node, (∀ item ∈ items, item.IsValue) → Obeys Unrefused (printAll ctx enter items)
  | [], _ => unrefused_pure ()
  | item :: items, h => by
    have hmore := unrefused_printAll henter items fun i hi => h i (List.mem_cons_of_mem _ hi)
    by_cases hendl : ∃ loc, item = .endl loc
    · -- An end of line is printed without being evaluated.
      obtain ⟨loc, rfl⟩ := hendl
      exact unrefused_bind (unrefused_modify _) fun _ => hmore
    · rw [printAll_cons_of_ne_endl fun loc heq => hendl ⟨loc, heq⟩]
      exact unrefused_bind (unrefused_eval henter item (h item List.mem_cons_self)) fun _ =>
        unrefused_bind (unrefused_modify _) fun _ => hmore

end

/-! ## Section 3: Statements -/

theorem unrefused_holds (henter : EntersUnrefused ctx enter) {condition : Node}
    (h : condition.IsValue) : Obeys Unrefused (holds ctx enter condition) :=
  unrefused_bind (unrefused_eval henter condition h) fun _ => unrefused_pure _

/-- A for loop may have no condition, which is a value as well. -/
theorem unrefused_goesOn (henter : EntersUnrefused ctx enter) {condition : Node}
    (h : condition.IsValue) : Obeys Unrefused (goesOn ctx enter condition) := by
  unfold goesOn
  split
  · exact unrefused_pure true
  · exact unrefused_holds henter h

/-- A budget that has run out is no fault at all. -/
theorem unrefused_throw_outOfBudget {α : Type} :
    Obeys Unrefused (throw .outOfBudget : Exec α) :=
  fun _ _ _ => nofun

/-- The rounds of a loop, by induction on how many may be begun. -/
theorem unrefused_rounds {condition : Exec Bool} {body : Exec Flow} {step : Exec Unit}
    (hcondition : Obeys Unrefused condition) (hbody : Obeys Unrefused body)
    (hstep : Obeys Unrefused step) (budget : Nat) :
    Obeys Unrefused (rounds ctx condition body step budget) := by
  induction budget with
  | zero =>
    -- No round may be begun: one that would be ends the run, but by no fault.
    refine unrefused_bind hcondition fun holds => ?_
    cases holds with
    | false => exact unrefused_pure Flow.normal
    | true => exact unrefused_bind (unrefused_tick ctx) fun _ => unrefused_throw_outOfBudget
  | succ budget ih =>
    -- A round is a step and the body, and what comes behind it has a round less to begin.
    refine unrefused_bind hcondition fun holds => ?_
    cases holds with
    | false => exact unrefused_pure Flow.normal
    | true =>
      refine unrefused_bind (unrefused_tick ctx) fun _ => unrefused_bind hbody fun flow => ?_
      cases flow with
      | returned value =>
        -- A return ends the loop before its step.
        exact unrefused_pure (Flow.returned value)
      | normal => exact unrefused_bind hstep fun _ => ih

/-- An expression that stands as a statement. -/
theorem unrefused_alone (henter : EntersUnrefused ctx enter) {budget : Nat} {node : Node}
    (h : node.IsValue) : Obeys Unrefused (exec ctx enter budget node) := by
  have halone : node.standsAlone = true := by cases h <;> rfl
  rw [exec_of_standsAlone halone]
  exact unrefused_bind (unrefused_arrive ctx node) fun _ =>
    unrefused_bind (unrefused_eval henter node h) fun _ => unrefused_pure Flow.normal

mutual

/-- Running a statement refuses nothing, if calls do not. -/
theorem unrefused_exec (henter : EntersUnrefused ctx enter) (budget : Nat) :
    ∀ node : Node, node.IsStatement → Obeys Unrefused (exec ctx enter budget node)
  | node, .value h => unrefused_alone henter h
  | .declaration name _, .declaration _ =>
    unrefused_bind (unrefused_arrive ctx _) fun _ => .get_bind fun m =>
      unrefused_bind (unrefused_modify _) fun _ => unrefused_bind (unrefused_modify _) fun _ =>
        unrefused_pure Flow.normal
  | .giveBack value _, .giveBack hvalue =>
    unrefused_bind (unrefused_arrive ctx _) fun _ =>
      unrefused_bind (unrefused_eval henter value hvalue) fun v => unrefused_pure (Flow.returned v)
  | .block body _, .block hbody =>
    unrefused_bind (unrefused_arrive ctx _) fun _ =>
      unrefused_inScope (unrefused_body henter budget body hbody)
  | .whileLoop condition body _, .whileLoop hcondition hbody =>
    unrefused_bind (unrefused_arrive ctx _) fun _ =>
      unrefused_rounds (unrefused_holds henter hcondition) (unrefused_body henter budget body hbody)
        (unrefused_pure ()) budget
  -- The parts of a header before the rounds run first, and may return.
  | .forLoop init condition step body _, .forLoop hinit hcondition hstep hbody =>
    unrefused_bind (unrefused_arrive ctx _) fun _ =>
      unrefused_bind (unrefused_body henter budget init hinit) fun flow => by
        cases flow with
        | returned value => exact unrefused_pure (Flow.returned value)
        | normal =>
          exact unrefused_rounds (unrefused_goesOn henter hcondition)
            (unrefused_body henter budget body hbody)
            (unrefused_bind (unrefused_eval henter step hstep) fun _ => unrefused_pure ()) budget
  | .ifElse condition thenBranch elseBranch _, .ifElse hcondition hthen helse =>
    unrefused_bind (unrefused_arrive ctx _) fun _ =>
      unrefused_bind (unrefused_holds henter hcondition) fun holds => by
        cases holds with
        | true => exact unrefused_body henter budget thenBranch hthen
        | false => exact unrefused_execElse henter budget elseBranch helse

/-- A body is a sequence of statements. -/
theorem unrefused_body (henter : EntersUnrefused ctx enter) (budget : Nat) :
    ∀ node : Node, node.IsBody → Obeys Unrefused (exec ctx enter budget node)
  | .sequence nodes, .sequence hnodes => unrefused_execAll henter budget nodes hnodes

/-- Statements one after the other, until one of them returns. -/
theorem unrefused_execAll (henter : EntersUnrefused ctx enter) (budget : Nat) :
    ∀ nodes : List Node, AllStatements nodes → Obeys Unrefused (execAll ctx enter budget nodes)
  | [], _ => unrefused_pure Flow.normal
  | node :: nodes, h =>
    unrefused_bind (unrefused_exec henter budget node (h node List.mem_cons_self)) fun flow => by
      cases flow with
      | normal =>
        exact unrefused_execAll henter budget nodes fun n hn => h n (List.mem_cons_of_mem _ hn)
      | returned value => exact unrefused_pure (Flow.returned value)

/-- The second branch of an `if` is a body where there is one. -/
theorem unrefused_execElse (henter : EntersUnrefused ctx enter) (budget : Nat) :
    ∀ branch : Option Node, (∀ node ∈ branch, node.IsBody) →
      Obeys Unrefused (execElse ctx enter budget branch)
  | none, _ => unrefused_pure Flow.normal
  | some node, h => unrefused_body henter budget node (h node rfl)

end

/-! ## Section 4: Calls -/

/-- Parameters are declared and written, which evaluates nothing. -/
theorem unrefused_bindParams :
    ∀ params values, Obeys Unrefused (bindParams params values)
  | _ :: params, _ :: values =>
    unrefused_bind (unrefused_modify _) fun _ => unrefused_bind (unrefused_modify _) fun _ =>
      unrefused_bindParams params values
  | [], _ => unrefused_pure ()
  | _ :: _, [] => unrefused_pure ()

/-- A function that can be found is one of the program's own. -/
theorem Program.WellShaped.of_find? {program : Program} (h : program.WellShaped) {callee : String}
    {routine : Routine} (hfind : program.find? callee = some routine) : routine.WellShaped :=
  h.routines routine (List.mem_of_find?_eq_some hfind)

/-- Calls of a well-shaped program refuse nothing, by induction on how deeply they may be nested. -/
theorem unrefused_activate (h : ctx.program.WellShaped) (budget : Nat) :
    EntersUnrefused ctx (activate ctx budget) := by
  induction budget with
  | zero =>
    intro callee routine _ args loc
    -- A call is refused for its depth, or the budget runs out at it.
    rw [activate_zero]
    refine .get_bind fun m => ?_
    split
    · exact unrefused_fail (fun _ _ => nofun)
    · exact unrefused_bind (unrefused_tick ctx) fun _ => unrefused_throw_outOfBudget
  | succ budget ih =>
    intro callee routine hfind args loc
    -- The body runs with calls of the smaller budget, which the induction hypothesis speaks of.
    have hbody : Obeys Unrefused (do
        bindParams routine.params args
        exec ctx (activate ctx budget) budget routine.body) :=
      unrefused_bind (unrefused_bindParams _ _) fun _ =>
        unrefused_body ih budget routine.body (h.of_find? hfind).body
    rw [activate_succ]
    refine .get_bind fun m => ?_
    split
    · exact unrefused_fail (fun _ _ => nofun)
    · refine unrefused_bind (unrefused_tick ctx) fun _ => unrefused_bind (unrefused_modify _) ?_
      exact fun _ => unrefused_bind (unrefused_inCall routine.name (unrefused_inScope hbody))
        fun _ => unrefused_pure _

/-! ## Section 5: Runs -/

/-- The globals of a well-shaped program are statements. -/
theorem unrefused_runGlobals (h : ctx.program.WellShaped) (budget : Nat) (nodes : List Node)
    (hnodes : AllStatements nodes) : Obeys Unrefused (Runner.runGlobals ctx budget nodes) := by
  induction nodes with
  | nil => exact unrefused_pure ()
  | cons node nodes ih =>
    obtain ⟨hnode, hnodes⟩ := List.forall_mem_cons.mp hnodes
    exact unrefused_bind (unrefused_exec (unrefused_activate h budget) budget node hnode)
      fun _ => ih hnodes

/-- A whole run of a well-shaped program: its globals, and then its main function. -/
theorem unrefused_whole (h : ctx.program.WellShaped) (budget : Nat) {main : Routine}
    (hmain : main.WellShaped) : Obeys Unrefused (Runner.whole ctx budget main) :=
  .whole unrefused_closed (unrefused_runGlobals h budget _ h.globals)
    (unrefused_body (unrefused_activate h budget) budget main.body hmain.body)
    (fun _ => unrefused_modify _) (fun m _ _ _ => unrefused_none m _)

namespace Runner

/-- A run of a well-shaped program does not end by such a refusal, however large its budget is. -/
theorem runWithin_not_refused {r : Runner} (h : r.program.WellShaped) (budget : Nat)
    (label : String) (loc : Location) :
    (r.runWithin budget).1 ≠ .error (.fault (.statementAsValue label loc)) := by
  intro hrefused
  cases hmain : r.program.find? mainName with
  | none =>
    -- Without a main function the run ends by that fault.
    rw [runWithin_of_no_main hmain] at hrefused
    cases hrefused
  | some main =>
    -- Otherwise the run is one action, and that refuses nothing.
    rw [(runWithin_of_main hmain budget).1] at hrefused
    have hwhole : Obeys Unrefused (whole r.context budget main) :=
      unrefused_whole h budget (h.of_find? hmain)
    exact hwhole r.machine label loc (outcome_eq_error_iff.mp hrefused)

/-- A run keeps the program, except that it drops globals that have failed. -/
theorem wellShaped_runWithin {r : Runner} (h : r.program.WellShaped) (budget : Nat) :
    (r.runWithin budget).2.program.WellShaped := by
  unfold runWithin
  split
  · exact h
  · -- Globals that have failed are gone afterwards, and no globals are well shaped.
    dsimp only
    split
    · exact ⟨h.routines, List.forall_mem_nil _⟩
    · split
      · exact h
      · exact h

/-- Runs leave a well-shaped program well shaped, by induction on their number. -/
theorem Later.wellShaped {r r' : Runner} (h : r.Later r') (hr : r.program.WellShaped) :
    r'.program.WellShaped := by
  induction h with
  | self => exact hr
  | again _ budget ih => exact wellShaped_runWithin ih budget

end Runner

/-- Programs that have been read are well shaped: whatever stands where a value is needed is one,
no literal is below zero, all names are words, and all bodies are sequences of statements. And so no
run of such a program, be it the first one or a later one, refuses a statement as a value. -/
theorem read_programs_never_refused {ts : List Token} {program : Program}
    (hread : Program.ofTokens ts = .ok program) :
    program.WellShaped ∧
      ∀ inputs limits logged r, (Runner.ofProgram program inputs limits logged).Later r →
        ∀ label loc, r.run.1 ≠ .error (.fault (.statementAsValue label loc)) ∧
          ∀ budget, (r.runWithin budget).1 ≠ .error (.fault (.statementAsValue label loc)) := by
  have hshape := Program.wellShaped_of_ofTokens hread
  refine ⟨hshape, fun inputs limits logged r hlater label loc => ?_⟩
  have hrun : ∀ budget, (r.runWithin budget).1 ≠ .error (.fault (.statementAsValue label loc)) :=
    fun budget => Runner.runWithin_not_refused (hlater.wellShaped hshape) budget label loc
  exact ⟨hrun (Runner.budget r.limits), hrun⟩

/-- The tokens of a function that prints a negative number and returns without a value. -/
def returnsNothing : List Token :=
  ["int", "main", "(", ")", "\x7b", "cout", "<<", "-", "1", ";", "return", ";",
    "\x7d"].map (⟨·, .start⟩)

/-- What is left out where a value is needed is read as a value, and a sign is no part of a literal. -/
theorem read_programs_never_refused_returnsNothing :
    let printing : Node := .output [.unary .neg (.literal 1 .start) .start] .start
    let program : Program := ⟨[⟨"main", [],
      .sequence [printing, .giveBack .empty .start], .start⟩], []⟩
    let r := Runner.ofProgram program [] ⟨some 5, 5, none⟩ false
    Program.ofTokens returnsNothing = .ok program ∧ program.WellShaped ∧ r.run.1 = .ok () ∧
      ∀ label loc, r.run.1 ≠ .error (.fault (.statementAsValue label loc)) := by
  intro printing program r
  have hread : Program.ofTokens returnsNothing = .ok program := rfl
  obtain ⟨hshape, hruns⟩ := read_programs_never_refused hread
  exact ⟨hread, hshape, rfl, fun label loc => (hruns [] _ false r .self label loc).1⟩

end Stepwise
