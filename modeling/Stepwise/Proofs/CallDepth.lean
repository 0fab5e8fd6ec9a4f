import Stepwise.Proofs.Course
import Stepwise.Proofs.ScopeDiscipline

/-!
# The limit on nested calls

The machine counts how deeply calls are nested, and a call is refused where the count has passed the
limit. The count goes up with the body of a function and comes back down at its end, so that at
every point of a run it is the count at the beginning plus the number of calls under way. The limit
thus admits as many calls as are missing to it at the beginning, and one more.

The main function begins at one and its globals at zero. In the main function the limit is therefore
the number of calls that may be under way, and in the globals of a fresh runner it is one less than
that.

## Main results

* `activate_refused_iff`: which calls are refused.
* `Reaches.callDepth`: the count at every point that an activity leads to.
* `calls_in_main_are_limited`: the limit while the main function runs.
* `calls_in_globals_pass_the_limit`: the limit while the globals of a fresh runner run.
-/

namespace Stepwise

open Machine Exec

/-! ## Section 1: Calls that are refused -/

section

variable {ctx : Context} (b : Nat) (routine : Routine) (loc : Location) {m : Machine}

/-- A call that is not refused counts a step, whatever becomes of it. -/
theorem steps_lt_of_admitted (args : List Int32) (h : m.callDepth ≤ ctx.limits.maxDepth) :
    m.steps < (final (activate ctx b routine args loc m)).steps := by
  have hdeep : ¬ ctx.limits.maxDepth < m.callDepth := Nat.not_lt.mpr h
  -- The step is counted first, and what follows takes none back.
  have hcounted : ∀ {f : Unit → Exec Int32}, (∀ u, Obeys Grows (f u)) →
      m.steps < (final ((tick ctx >>= f) m)).steps := by
    intro f hf
    apply final_bind (P := fun m' => m.steps < m'.steps)
    · rw [final_tick]
      exact Nat.lt_succ_self _
    · intro u m₁ _ hm₁
      exact Nat.lt_of_lt_of_le hm₁ (hf u m₁).steps
  cases b with
  | zero =>
    rw [activate_zero, get_bind_apply, if_neg hdeep]
    exact hcounted fun _ _ => .refl _
  | succ b =>
    rw [activate_succ, get_bind_apply, if_neg hdeep]
    exact hcounted fun _ => (growthDiscipline ctx).obeys_runBody
      ((growthDiscipline ctx).obeys_activate b) routine args m.callDepth

/-- A call is refused, no step being counted, exactly where the count has passed the limit. -/
theorem activate_refused_iff (args : List Int32) :
    activate ctx b routine args loc m = .error (.fault (.callDepth ctx.limits.maxDepth loc)) m ↔
      ctx.limits.maxDepth < m.callDepth := by
  constructor
  · intro hrefused
    by_contra hadmitted
    have hsteps := steps_lt_of_admitted b routine loc args (Nat.not_lt.mp hadmitted)
    rw [hrefused] at hsteps
    exact Nat.lt_irrefl _ hsteps
  · intro hdeep
    cases b with
    | zero =>
      rw [activate_zero, get_bind_apply, if_pos hdeep]
      rfl
    | succ b =>
      rw [activate_succ, get_bind_apply, if_pos hdeep]
      rfl

variable {b} {routine} in
/-- The same for a call in the program whose arguments have been evaluated. -/
theorem eval_call_refused_iff {callee : String} {args : List Node} {values : List Int32}
    {m₁ : Machine} (hname : callee ≠ putchar) (hfind : ctx.program.find? callee = some routine)
    (hcount : routine.params.length = args.length)
    (hargs : evalAll ctx (activate ctx b) args m = .ok values m₁) :
    eval ctx (activate ctx b) (.call callee args loc) m =
        .error (.fault (.callDepth ctx.limits.maxDepth loc)) m₁ ↔
      ctx.limits.maxDepth < m₁.callDepth := by
  rw [eval_call hname hfind hcount, bind_of_ok hargs]
  exact activate_refused_iff b routine loc values

end

/-! ## Section 2: The count at every point -/

/-- The count stays the same through evaluation. -/
theorem callDepth_of_statement {ctx : Context} {credit : Nat} {m m' : Machine} {halt : Option Halt}
    (h : (frameDiscipline ctx).statement credit m halt m') (hm : m.Linear) :
    m'.callDepth = m.callDepth :=
  (h hm.depth_pos).1.callDepth

/-- What is begun, is begun at the same count, or it is the body of a function and begun at the next
one. A function whose body is begun has not passed the limit. -/
theorem Begins.callDepth {ctx : Context} {a c : Activity} (h : Begins ctx a c)
    (ha : a.machine.Linear) :
    c.machine.callDepth = a.machine.callDepth + a.task.calls ∧
      (a.task.calls = 0 ∨ a.machine.callDepth ≤ ctx.limits.maxDepth) := by
  obtain ⟨b, task, m⟩ := a
  cases task with
  | call routine args loc =>
    cases h with
    | body hdepth htick hparams =>
      obtain rfl := eq_of_tick htick
      have hinside := linear_insideCall routine args (m := { m with steps := m.steps + 1 })
        ⟨ha.parent, ha.current⟩
      have hobeys : Obeys ((frameDiscipline ctx).statement 0) (bindParams routine.params args) :=
        (frameDiscipline ctx).obeys_bindParams routine.params args
      exact ⟨callDepth_of_statement (hobeys.of_ok hparams) hinside, .inr hdepth⟩
  | _ =>
    refine ⟨?_, .inl rfl⟩
    rcases h.cases (frameDiscipline ctx) with hsame | ⟨m', hm', hc⟩ | ⟨_, _, _, _, htask, _⟩
    · exact callDepth_of_statement hsame ha
    · -- The scope of a block leaves the count as it is.
      have hbefore := callDepth_of_statement ((frameDiscipline ctx).value_statement hm') ha
      rw [hc]
      exact hbefore
    · cases htask

/-- Wherever evaluation gets, the count is that of the beginning and the calls under way. It never
passes the limit by more than one. -/
theorem Reaches.callDepth {ctx : Context} {a c : Activity} {calls : Nat}
    (h : Reaches ctx a calls c) (ha : a.machine.Linear)
    (hstart : a.machine.callDepth ≤ ctx.limits.maxDepth + 1) :
    c.machine.callDepth = a.machine.callDepth + calls ∧
      c.machine.callDepth ≤ ctx.limits.maxDepth + 1 := by
  induction h with
  | self => exact ⟨rfl, hstart⟩
  | @begins calls c d hreaches hd ih =>
    obtain ⟨hcount, hlimit⟩ := ih
    obtain ⟨hnext, hadmitted⟩ := hd.callDepth (hreaches.invariant Begins.linear ha)
    refine ⟨by omega, ?_⟩
    rcases hadmitted with hnone | hbelow
    · omega
    · -- The call was below the limit, and it adds one at most.
      have hone : c.task.calls ≤ 1 := by cases c.task <;> simp [Task.calls]
      omega

/-- The count at the end of an activity is that of its beginning. -/
theorem Activity.callDepth_final (ctx : Context) {a : Activity} (ha : a.machine.Linear) :
    (a.final ctx).callDepth = a.machine.callDepth :=
  callDepth_of_statement ((frameDiscipline ctx).obeys_task a.budget a.task a.machine) ha

/-! ## Section 3: Runs -/

namespace Runner

/-- A run, in its main function, gets to an activity with so many calls under way. The main function
itself is none of them, unless it is called. -/
def InMain (r : Runner) (budget calls : Nat) (a : Activity) : Prop :=
  ∃ main m, r.program.find? mainName = some main ∧
    runGlobals r.context budget r.program.globals r.machine = .ok () m ∧
    Reaches r.context ⟨budget, .statement main.body, mainMachine main m⟩ calls a

/-- A run, in one of its globals, gets to an activity with so many calls under way. -/
def InGlobals (r : Runner) (budget calls : Nat) (a : Activity) : Prop :=
  ∃ main before node after m, r.program.find? mainName = some main ∧
    r.program.globals = before ++ node :: after ∧
    runGlobals r.context budget before r.machine = .ok () m ∧
    Reaches r.context ⟨budget, .statement node, m⟩ calls a

/-- The count at an activity is `base` and the calls under way, and it has not passed the limit by
more than one. A call of a function that exists, with as many arguments as it takes, none of which
fails, is refused if and only if the count has passed the limit. Its refusal ends the run. -/
structure Counts (r : Runner) (budget base calls : Nat) (a : Activity) : Prop where
  start : a.machine.callDepth = base + calls
  final : (a.final r.context).callDepth = base + calls
  limit : base + calls ≤ r.limits.maxDepth + 1
  refused (callee : String) (args : List Node) (loc : Location) (routine : Routine)
    (values : List Int32) (m : Machine) (htask : a.task = .value (.call callee args loc))
    (hname : callee ≠ putchar) (hfind : r.program.find? callee = some routine)
    (hcount : routine.params.length = args.length)
    (hargs : evalAll r.context (activate r.context a.budget) args a.machine = .ok values m) :
    (eval r.context (activate r.context a.budget) (.call callee args loc) a.machine =
        .error (.fault (.callDepth r.limits.maxDepth loc)) m ↔
      base + calls = r.limits.maxDepth + 1) ∧
    (base + calls = r.limits.maxDepth + 1 →
      (r.runWithin budget).1 = .error (.fault (.callDepth r.limits.maxDepth loc)))

variable {r : Runner} {budget calls : Nat} {a : Activity}

/-- An activity counts as the start of it does. -/
theorem Starts.counts {start : Activity} (hstart : r.Starts budget start) (hr : r.machine.Linear)
    (hlimit : start.machine.callDepth ≤ r.limits.maxDepth + 1)
    (h : Reaches r.context start calls a) :
    r.Counts budget start.machine.callDepth calls a := by
  have hlinear := hstart.linear hr
  have ha : a.machine.Linear := h.invariant Begins.linear hlinear
  obtain ⟨hcount, hbound⟩ := h.callDepth hlinear hlimit
  refine ⟨hcount, (a.callDepth_final r.context ha).trans hcount, hcount ▸ hbound, ?_⟩
  intro callee args loc routine values m htask hname hfind hargc hargs
  have hm : m.callDepth = a.machine.callDepth := by
    have hevaluated := ((frameDiscipline r.context).obeys_evalAll
      ((frameDiscipline r.context).obeys_enter a.budget) args).of_ok hargs
    exact (hevaluated ha.depth_pos).1.callDepth
  -- The arguments are back at the count of the call, which has passed the limit by one at most.
  have hrefused := eval_call_refused_iff loc hname hfind hargc hargs
  have hlast : r.context.limits.maxDepth < m.callDepth ↔
      start.machine.callDepth + calls = r.limits.maxDepth + 1 := by
    rw [hm, hcount, show r.context.limits = r.limits from rfl]
    rw [hcount] at hbound
    exact ⟨fun hlt => Nat.le_antisymm hbound hlt, fun heq => by omega⟩
  refine ⟨hrefused.trans hlast, fun heq => ?_⟩
  have hvisits : r.Visits budget a := ⟨start, calls, hstart, h⟩
  apply hvisits.outcome
  rw [htask, Task.action, halt?_discard, hrefused.mpr (hlast.mpr heq)]
  rfl

/-- In the main function the count begins at one. -/
theorem InMain.counts (h : r.InMain budget calls a) (hr : r.machine.Linear) :
    r.Counts budget 1 calls a := by
  obtain ⟨main, m, hmain, hglobals, hreaches⟩ := h
  exact (Starts.main hmain hglobals).counts hr (Nat.le_add_left 1 _) hreaches

/-- In the globals it begins where it stood before the run. -/
theorem InGlobals.counts (h : r.InGlobals budget calls a) (hr : r.machine.Linear)
    (hlimit : r.machine.callDepth ≤ r.limits.maxDepth + 1) :
    r.Counts budget r.machine.callDepth calls a := by
  obtain ⟨main, before, node, after, m, hmain, hglobals, hbefore, hreaches⟩ := h
  have hm : m.callDepth = r.machine.callDepth :=
    callDepth_of_statement
      (((frameDiscipline r.context).obeys_runGlobals budget before).of_ok hbefore) hr
  have hcounts := (Starts.global hmain hglobals hbefore).counts hr (hm ▸ hlimit) hreaches
  rwa [show (Activity.mk budget (.statement node) m).machine.callDepth = r.machine.callDepth
    from hm] at hcounts

/-- The limits stay the same from run to run. -/
theorem Later.limits {r' : Runner} (h : r.Later r') : r'.limits = r.limits := by
  induction h with
  | self => rfl
  | @again r' _ budget ih =>
    rw [← ih]
    unfold runWithin
    split
    · rfl
    · dsimp only
      split
      · rfl
      · split <;> rfl

end Runner

/-! ## Section 4: The limit in the main function and in the globals -/

/-- While the main function runs, the count is one more than the number of calls under way, and this
number does not pass the limit. A call is refused if and only if it has come to the limit. -/
theorem calls_in_main_are_limited (program : Program) (inputs : List Int32) (limits : Limits)
    (logged : Bool) (r : Runner) (hr : (Runner.ofProgram program inputs limits logged).Later r)
    (budget calls : Nat) (a : Activity) (ha : r.InMain budget calls a) :
    a.machine.callDepth = 1 + calls ∧ (a.final r.context).callDepth = 1 + calls ∧
      calls ≤ limits.maxDepth ∧
      ∀ (callee : String) (args : List Node) (loc : Location) (routine : Routine)
        (values : List Int32) (m : Machine), a.task = .value (.call callee args loc) →
        callee ≠ putchar → r.program.find? callee = some routine →
        routine.params.length = args.length →
        evalAll r.context (activate r.context a.budget) args a.machine = .ok values m →
        (eval r.context (activate r.context a.budget) (.call callee args loc) a.machine =
            .error (.fault (.callDepth limits.maxDepth loc)) m ↔ calls = limits.maxDepth) ∧
          (calls = limits.maxDepth →
            (r.runWithin budget).1 = .error (.fault (.callDepth limits.maxDepth loc))) := by
  have hlimits : r.limits = limits := hr.limits
  have hcounts := ha.counts (hr.linear (Runner.linear_ofProgram program inputs limits logged))
  have hbound := hcounts.limit
  rw [hlimits] at hbound
  refine ⟨hcounts.start, hcounts.final, by omega, ?_⟩
  intro callee args loc routine values m htask hname hfind hcount hargs
  have hrefused := hcounts.refused callee args loc routine values m htask hname hfind hcount hargs
  rwa [hlimits, Nat.add_comm 1 calls, Nat.add_right_cancel_iff] at hrefused

/-- A program whose function calls itself without an end. -/
def callsItself : Program :=
  let call : Node := .call "f" [] .start
  ⟨[⟨"f", [], call, .start⟩, ⟨mainName, [], call, .start⟩], []⟩

/-- Under a limit of one, the call in the main function is let in, and the one inside it is not. -/
theorem calls_in_main_are_limited_callsItself :
    let r := Runner.ofProgram callsItself [] ⟨none, 1, none⟩ false
    ∃ a, r.InMain 2 1 a ∧ a.task = .value (.call "f" [] .start) ∧ a.machine.callDepth = 2 ∧
      (r.runWithin 2).1 = .error (.fault (.callDepth 1 .start)) := by
  intro r
  have hmain : r.InMain 2 1 _ :=
    ⟨_, _, rfl, rfl, .begins (.begins (.begins (.begins .self (.alone rfl rfl))
      (.enter (by decide) rfl rfl rfl)) (.body (by decide) rfl rfl)) (.alone rfl rfl)⟩
  obtain ⟨hdepth, -, -, hrefused⟩ :=
    calls_in_main_are_limited callsItself [] ⟨none, 1, none⟩ false r .self 2 1 _ hmain
  exact ⟨_, hmain, rfl, hdepth, (hrefused "f" [] .start _ [] _ rfl (by decide) rfl rfl rfl).2 rfl⟩

/-- While the globals of a fresh runner run, the count is the number of calls under way, and this
number passes the limit by one at most. A call is refused if and only if it has passed the limit. -/
theorem calls_in_globals_pass_the_limit (program : Program) (inputs : List Int32) (limits : Limits)
    (logged : Bool) (budget calls : Nat) (a : Activity)
    (ha : (Runner.ofProgram program inputs limits logged).InGlobals budget calls a) :
    let r := Runner.ofProgram program inputs limits logged
    a.machine.callDepth = calls ∧ (a.final r.context).callDepth = calls ∧
      calls ≤ limits.maxDepth + 1 ∧
      ∀ (callee : String) (args : List Node) (loc : Location) (routine : Routine)
        (values : List Int32) (m : Machine), a.task = .value (.call callee args loc) →
        callee ≠ putchar → program.find? callee = some routine →
        routine.params.length = args.length →
        evalAll r.context (activate r.context a.budget) args a.machine = .ok values m →
        (eval r.context (activate r.context a.budget) (.call callee args loc) a.machine =
            .error (.fault (.callDepth limits.maxDepth loc)) m ↔ calls = limits.maxDepth + 1) ∧
          (calls = limits.maxDepth + 1 →
            (r.runWithin budget).1 = .error (.fault (.callDepth limits.maxDepth loc))) := by
  intro r
  have hcounts := ha.counts (Runner.linear_ofProgram program inputs limits logged) (Nat.zero_le _)
  rw [show r.machine.callDepth = 0 from rfl] at hcounts
  have hzero : 0 + calls = calls := Nat.zero_add calls
  refine ⟨hcounts.start.trans hzero, hcounts.final.trans hzero, hzero ▸ hcounts.limit, ?_⟩
  intro callee args loc routine values m htask hname hfind hcount hargs
  have hrefused := hcounts.refused callee args loc routine values m htask hname hfind hcount hargs
  rwa [hzero] at hrefused

/-- A program that calls a function for the first value of a variable outside functions. -/
def callsForGlobal : Program :=
  ⟨[⟨"f", [], .giveBack (.literal 1 .start) .start, .start⟩, ⟨mainName, [], .empty, .start⟩],
    [.assignment (.plain "x" .start) (.call "f" [] .start) .start]⟩

/-- Under a limit of zero its function is called nevertheless. -/
theorem callsForGlobal_inGlobals :
    ∃ a, (Runner.ofProgram callsForGlobal [] ⟨none, 0, none⟩ false).InGlobals 2 1 a :=
  ⟨_, _, [], _, [], _, rfl, rfl, rfl, .begins (.begins (.begins (.begins .self (.alone rfl rfl))
    .assigned) (.enter (by decide) rfl rfl rfl)) (.body (by decide) rfl rfl)⟩

/-- Under a limit of zero a call is under way while the globals run, and the run ends well. -/
theorem calls_in_globals_pass_the_limit_callsForGlobal :
    let r := Runner.ofProgram callsForGlobal [] ⟨none, 0, none⟩ false
    ∃ a, r.InGlobals 2 1 a ∧ a.machine.callDepth = 1 ∧ (r.runWithin 2).1 = .ok () := by
  intro r
  obtain ⟨a, ha⟩ := callsForGlobal_inGlobals
  obtain ⟨hdepth, -⟩ :=
    calls_in_globals_pass_the_limit callsForGlobal [] ⟨none, 0, none⟩ false 2 1 a ha
  exact ⟨a, ha, hdepth, rfl⟩

/-- So the limit does not bound the calls under way in globals as it does in the main function. -/
theorem calls_in_globals_not_limited :
    ¬ ∀ (program : Program) (inputs : List Int32) (limits : Limits) (logged : Bool)
      (budget calls : Nat) (a : Activity),
      (Runner.ofProgram program inputs limits logged).InGlobals budget calls a →
        calls ≤ limits.maxDepth := by
  intro hlimited
  obtain ⟨a, ha⟩ := callsForGlobal_inGlobals
  have hle : 1 ≤ 0 := hlimited callsForGlobal [] ⟨none, 0, none⟩ false 2 1 a ha
  exact absurd hle (by decide)

end Stepwise
