import Stepwise.Proofs.Activity
import Stepwise.Proofs.Shape

/-!
# Bookkeeping

A machine counts steps and keeps the place of the last statement. Without a limit on steps and without
a trace this is bookkeeping, and what a run does hardly depends on it: the place is looked at in one
case only, when a sequence of statements stands where a value is needed. So two runs that start from
machines which differ in their bookkeeping end alike, and differ in their bookkeeping still.

The exception makes it necessary to say when the two machines are placed alike. They need not be before
a statement, since a statement with a place of its own takes that over before it does anything else.
They need not be before an expression either, if that is one through and through.

## Main results

* `Exec.Parallel.bind`: two actions that end alike, one after the other.
* `oblivious_eval`, `oblivious_exec`, `oblivious_activate`: bookkeeping does not matter.
-/

namespace Stepwise

open Machine Exec

/-! ## Section 1: Machines and actions -/

/-- Machines without a trace that differ in their bookkeeping only; and if they are placed alike, in the
count of steps only. -/
inductive Machine.Matches (placed : Bool) (m : Machine) : Machine → Prop where
  | intro (steps : Nat) (loc : Location) (hloc : placed = true → loc = m.loc)
      (hhistory : m.history = none) : Matches placed m { m with steps := steps, loc := loc }

/-- A machine without a trace matches itself. -/
theorem Machine.Matches.refl {m : Machine} (h : m.history = none) (placed : Bool) :
    m.Matches placed m :=
  .intro m.steps m.loc (fun _ => rfl) h

/-- Machines that are placed alike match also where that is not asked for. -/
theorem Machine.Matches.weaken {m m' : Machine} (h : m.Matches true m') (placed : Bool) :
    m.Matches placed m' := by
  obtain ⟨steps, loc, hloc, hhistory⟩ := h
  exact .intro steps loc (fun _ => hloc rfl) hhistory

theorem Machine.Matches.untraced {placed : Bool} {m m' : Machine} (h : m.Matches placed m') :
    m.history = none ∧ m'.history = none := by
  obtain ⟨steps, loc, -, hhistory⟩ := h
  exact ⟨hhistory, hhistory⟩

/-- What is said of their places may be forgotten. -/
theorem Machine.Matches.unplaced {placed : Bool} {m m' : Machine} (h : m.Matches placed m') :
    m.Matches false m' := by
  obtain ⟨steps, loc, -, hhistory⟩ := h
  exact .intro steps loc nofun hhistory

/-- Two results that are the same but for the bookkeeping. After a halt, nothing is said of places. -/
inductive Exec.Agrees {α : Type} (placed : Bool) :
    EStateM.Result Halt Machine α → EStateM.Result Halt Machine α → Prop where
  | ok {a : α} {m m' : Machine} (h : m.Matches placed m') : Agrees placed (.ok a m) (.ok a m')
  | error {halt : Halt} {m m' : Machine} (h : m.Matches false m') :
      Agrees placed (.error halt m) (.error halt m')

/-- What is done afterwards in any case is done to both machines. -/
theorem Exec.Agrees.andThen {α : Type} {q : Bool} {x y : Exec α} {after after' : Machine → Machine}
    {m m' : Machine} (h : Agrees q (x m) (y m'))
    (hafter : ∀ {placed n n'}, n.Matches placed n' → (after n).Matches placed (after' n')) :
    Agrees q (Exec.andThen x after m) (Exec.andThen y after' m') := by
  unfold Exec.andThen
  generalize x m = result at h
  generalize y m' = result' at h
  cases h with
  | ok hm => exact .ok (hafter hm)
  | error hm => exact .error (hafter hm)

/-- On machines that match, two actions end alike. It says whether the machines are placed alike before
them, and whether they are after them if they give values. -/
structure Exec.Parallel {α : Type} (placed placed' : Bool) (x y : Exec α) : Prop where
  agrees {m m' : Machine} : m.Matches placed m' → Agrees placed' (x m) (y m')

/-- An action that ends alike on machines that match. -/
abbrev Exec.Oblivious {α : Type} (placed placed' : Bool) (x : Exec α) : Prop :=
  Parallel placed placed' x x

namespace Exec.Parallel

variable {α β : Type} {p q r : Bool}

theorem pure (a : α) : Oblivious p p (Pure.pure a : Exec α) :=
  ⟨fun hm => .ok hm⟩

theorem fail (fault : Fault) : Oblivious p q (Exec.fail fault : Exec α) :=
  ⟨fun hm => .error hm.unplaced⟩

theorem throw (halt : Halt) : Oblivious p q (MonadExcept.throw halt : Exec α) :=
  ⟨fun hm => .error hm.unplaced⟩

/-- One pair of actions after another; the second pair meets the machines as the first one left them. -/
theorem bind {x y : Exec α} {f g : α → Exec β} (hx : Parallel p q x y)
    (hf : ∀ a, Parallel q r (f a) (g a)) : Parallel p r (x >>= f) (y >>= g) := by
  refine ⟨fun {m m'} hm => ?_⟩
  have hxy := hx.agrees hm
  simp only [Bind.bind, EStateM.bind]
  generalize x m = result at hxy
  generalize y m' = result' at hxy
  cases hxy with
  | ok hm =>
    -- Both give the same value, and go on with it.
    exact (hf _).agrees hm
  | error hm =>
    -- Both halt alike, and what would have followed is not done.
    exact .error hm

/-- An action that looks at the machine first. -/
theorem get_bind {f : Machine → Exec α}
    (hf : ∀ {m m'}, m.Matches p m' → Parallel p q (f m) (f m')) : Oblivious p q (get >>= f) :=
  ⟨fun hm => (hf hm).agrees hm⟩

/-- Machines that are placed alike after an action need not be known to be. -/
theorem weaken {x y : Exec α} (h : Parallel p true x y) (q : Bool) : Parallel p q x y := by
  refine ⟨fun {m m'} hm => ?_⟩
  have hxy := h.agrees hm
  generalize x m = result at hxy
  generalize y m' = result' at hxy
  cases hxy with
  | ok hm => exact .ok (hm.weaken q)
  | error hm => exact .error hm

end Exec.Parallel

/-! ## Section 2: Primitive actions -/

section

variable {α : Type} {p q : Bool}

/-- An action that does not look at the bookkeeping, does not change it, and does not halt. -/
theorem oblivious_of_ok {x : Exec α}
    (h : ∀ (m : Machine) (steps : Nat) (loc : Location), ∃ a n, x m = .ok a n ∧
      x { m with steps := steps, loc := loc } = .ok a { n with steps := steps, loc := loc } ∧
      n.loc = m.loc ∧ n.history = m.history) : Oblivious p p x := by
  refine ⟨?_⟩
  rintro m _ ⟨steps, loc, hloc, hhistory⟩
  obtain ⟨a, n, hx, hx', hn, hsame⟩ := h m steps loc
  rw [hx, hx']
  exact .ok (.intro steps loc (fun hp => (hloc hp).trans hn.symm) (hsame.trans hhistory))

theorem oblivious_note (event : Event) : Oblivious p p (note event) :=
  oblivious_of_ok fun _ _ _ => ⟨_, _, rfl, rfl, rfl, rfl⟩

theorem oblivious_load (key : String) : Oblivious p p (load key) :=
  oblivious_of_ok fun _ _ _ => ⟨_, _, rfl, rfl, rfl, rfl⟩

theorem oblivious_save (key : String) (value : Int32) : Oblivious p p (save key value) :=
  oblivious_of_ok fun _ _ _ => ⟨_, _, rfl, rfl, rfl, rfl⟩

theorem oblivious_declare (name : String) : Oblivious p p (declare name) :=
  oblivious_of_ok fun _ _ _ => ⟨_, _, rfl, rfl, rfl, rfl⟩

theorem oblivious_print (put : Output → Output) : Oblivious p p (print put) :=
  oblivious_of_ok fun _ _ _ => ⟨_, _, rfl, rfl, rfl, rfl⟩

/-- The input is not part of the bookkeeping, so that both find the same one or none. -/
theorem oblivious_next (loc : Location) : Oblivious p p (next loc) := by
  refine ⟨?_⟩
  rintro m _ ⟨steps, loc', hloc, hhistory⟩
  unfold next
  dsimp only
  split
  · -- There is an input, and both take it.
    exact .ok (.intro steps loc' hloc hhistory)
  · exact .error (.intro steps loc' nofun hhistory)

/-- A scope is opened and released on both sides alike. -/
theorem oblivious_inScope {x : Exec α} (h : Oblivious p q x) : Oblivious p q (inScope x) := by
  refine ⟨?_⟩
  rintro m _ ⟨steps, loc, hloc, hhistory⟩
  have hinside : Oblivious p q (do note (.scopeEntered m.store.depth m.scope); x) :=
    (oblivious_note _).bind fun _ => h
  have hopened : m.opened.Matches p (opened { m with steps := steps, loc := loc }) :=
    .intro steps loc hloc hhistory
  rw [inScope_apply, inScope_apply]
  -- The scope is released from both, whether the action gave a value or halted.
  refine (hinside.agrees hopened).andThen ?_
  rintro _ n _ ⟨steps, loc, hloc, hhistory⟩
  exact .intro steps loc hloc hhistory

/-- So is a call. -/
theorem oblivious_inCall (routine : String) {x : Exec α} (h : Oblivious p q x) :
    Oblivious p q (inCall routine x) := by
  refine ⟨?_⟩
  rintro m _ ⟨steps, loc, hloc, hhistory⟩
  have hcalled :
      (m.called routine).Matches p (called routine { m with steps := steps, loc := loc }) :=
    .intro steps loc hloc hhistory
  rw [inCall_apply, inCall_apply]
  -- Both return to the caller, whether the body gave a value or halted.
  refine (h.agrees hcalled).andThen ?_
  rintro _ n _ ⟨steps, loc, hloc, hhistory⟩
  exact .intro steps loc hloc hhistory

theorem oblivious_bindParams : ∀ params values, Oblivious p p (bindParams params values)
  | param :: params, value :: values =>
    (oblivious_declare param).bind fun _ => (oblivious_save param value).bind fun _ =>
      oblivious_bindParams params values
  | [], _ => .pure ()
  | _ :: _, [] => .pure ()

variable {ctx : Context} (hlimit : ctx.limits.maxSteps = none)
include hlimit

/-- Without a limit a step is counted, whatever the count is. -/
theorem oblivious_tick : Oblivious p p (tick ctx) := by
  refine ⟨?_⟩
  rintro m _ ⟨steps, loc, hloc, hhistory⟩
  rw [tick_apply, tick_apply, hlimit]
  exact .ok (.intro (steps + 1) loc hloc hhistory)

/-- Without a limit and without a trace, arriving at a statement is bookkeeping. -/
theorem arrive_apply (node : Node) {m : Machine} (hhistory : m.history = none) :
    arrive ctx node m =
      .ok () { m with loc := node.loc?.getD m.loc, steps := m.steps + 1 } := by
  have hcount : ∀ {m : Machine}, m.history = none →
      (do tick ctx; record node.label) m = .ok () { m with steps := m.steps + 1 } := by
    intro m hhistory
    have htick : tick ctx m = .ok () { m with steps := m.steps + 1 } := by
      rw [tick_apply, hlimit]
    rw [bind_of_ok htick, record, hhistory]
  unfold arrive
  cases node.loc? with
  | none => exact hcount hhistory
  | some loc => exact hcount hhistory

/-- Both machines arrive: they count a step each and take over the same place, if there is one. -/
theorem oblivious_arrive (node : Node) : Oblivious p p (arrive ctx node) := by
  refine ⟨fun {m m'} hm => ?_⟩
  rw [arrive_apply hlimit node hm.untraced.1, arrive_apply hlimit node hm.untraced.2]
  obtain ⟨steps, loc, hloc, hhistory⟩ := hm
  refine .ok (.intro (steps + 1) _ (fun hp => ?_) hhistory)
  rw [hloc hp]

/-- Machines that have arrived at a statement with a place are placed alike. -/
theorem oblivious_arrive_of_loc {node : Node} (hnode : node.loc?.isSome) :
    Oblivious p true (arrive ctx node) := by
  refine ⟨fun {m m'} hm => ?_⟩
  rw [arrive_apply hlimit node hm.untraced.1, arrive_apply hlimit node hm.untraced.2]
  obtain ⟨place, hplace⟩ := Option.isSome_iff_exists.mp hnode
  obtain ⟨steps, loc, -, hhistory⟩ := hm
  rw [hplace]
  exact .ok (.intro (steps + 1) place (fun _ => rfl) hhistory)

variable {x y : Exec α}

/-- The first of two machines arrives at a statement before both go on. -/
theorem arrive_parallel (node : Node) (h : Parallel false q x y) :
    Parallel p q (do arrive ctx node; x) y := by
  refine ⟨fun {m m'} hm => ?_⟩
  rw [bind_of_ok (arrive_apply hlimit node hm.untraced.1)]
  obtain ⟨steps, loc, -, hhistory⟩ := hm
  exact h.agrees (.intro steps loc nofun hhistory)

/-- The second one does. -/
theorem parallel_arrive (node : Node) (h : Parallel false q x y) :
    Parallel p q x (do arrive ctx node; y) := by
  refine ⟨fun {m m'} hm => ?_⟩
  rw [bind_of_ok (arrive_apply hlimit node hm.untraced.2)]
  obtain ⟨steps, loc, -, hhistory⟩ := hm
  exact h.agrees (.intro (steps + 1) (node.loc?.getD loc) nofun hhistory)

end

/-! ## Section 3: Expressions -/

section

variable {ctx : Context} {enter : Enter} {p : Bool}

/-- A statement where a value is needed is refused alike by machines that are placed alike. -/
theorem oblivious_refuse {node : Node} (h : p = true ∨ node.IsValue) (hnode : ¬ node.IsValue) :
    Oblivious p p (refuse node) := by
  refine ⟨?_⟩
  rintro m _ ⟨steps, loc, hloc, hhistory⟩
  -- The node is no value, so that the machines are placed alike, and the fault has the same place.
  obtain rfl := hloc (h.resolve_right hnode)
  exact .error (.intro steps m.loc nofun hhistory)

/-- The value of an operator is not a matter of the machine. -/
theorem oblivious_apply? (op : BinaryOp) (x y : Int32) (loc : Location) :
    Oblivious p p (match op.apply? x y with
      | some value => return value
      | none => fail (.divisionByZero loc)) := by
  cases op.apply? x y with
  | some value => exact .pure value
  | none => exact .fail _

mutual

/-- Bookkeeping does not matter to the value of an expression: machines that are placed alike give it
alike, and all machines do if it is an expression through and through. -/
theorem oblivious_eval (henter : ∀ routine args loc, Oblivious p p (enter routine args loc)) :
    ∀ node : Node, p = true ∨ node.IsValue → Oblivious p p (eval ctx enter node)
  | .empty, _ => .pure 0
  | .endl _, _ => .pure 0
  | .literal value _, _ => .pure value
  | .var ref, h => by
    have hindices := h.imp_right fun (.var _ hindices) => hindices
    exact (oblivious_slot henter ref hindices).bind fun key => oblivious_load key
  | .assignment target value _, h => by
    have htarget := h.imp_right fun (.assignment (.var _ hindices) _) => hindices
    have hvalue := h.imp_right fun (.assignment _ hvalue) => hvalue
    exact (oblivious_eval henter value hvalue).bind fun v =>
      (oblivious_slot henter target htarget).bind fun key =>
        (oblivious_save key v).bind fun _ => .pure v
  | .unary op operand _, h => by
    have hoperand := h.imp_right fun (.unary hoperand) => hoperand
    exact (oblivious_eval henter operand hoperand).bind fun v => .pure (op.apply v)
  | .binary op left right loc, h => by
    have hleft := h.imp_right fun (.binary hleft _) => hleft
    have hright := h.imp_right fun (.binary _ hright) => hright
    exact (oblivious_eval henter left hleft).bind fun x =>
      (oblivious_eval henter right hright).bind fun y => oblivious_apply? op x y loc
  -- What becomes of a call does not depend on the machine.
  | .call callee args loc, h => by
    have hargs := h.imp_right fun (.call _ hargs) => hargs
    rcases eval_call_cases ctx enter callee args loc with
      ⟨arg, rfl, rfl⟩ | ⟨routine, hname, hfind, hcount⟩ | ⟨fault, -, hrefused⟩
    · rw [eval_putchar]
      exact (oblivious_eval henter arg (hargs.imp_right fun h => h arg (.head _))).bind fun v =>
        (oblivious_print _).bind fun _ => .pure v
    · rw [eval_call hname hfind hcount]
      exact (oblivious_evalAll henter args hargs).bind fun values => henter routine values loc
    · rw [hrefused]
      exact .fail fault
  | .input targets loc, h => by
    have htargets := h.imp_right fun (.input htargets) => htargets
    exact (oblivious_readAll henter loc targets htargets).bind fun _ => .pure 0
  | .output items _, h => by
    have hitems := h.imp_right fun (.output hitems) => hitems
    exact (oblivious_printAll henter items hitems).bind fun _ => .pure 0
  -- These are no expressions, and are refused at the place of the machine.
  | .sequence _, h => oblivious_refuse h nofun
  | .declaration _ _, h => oblivious_refuse h nofun
  | .ifElse _ _ _ _, h => oblivious_refuse h nofun
  | .whileLoop _ _ _, h => oblivious_refuse h nofun
  | .forLoop _ _ _ _ _, h => oblivious_refuse h nofun
  | .giveBack _ _, h => oblivious_refuse h nofun
  | .block _ _, h => oblivious_refuse h nofun

/-- Expressions one after the other. -/
theorem oblivious_evalAll (henter : ∀ routine args loc, Oblivious p p (enter routine args loc)) :
    ∀ nodes : List Node, (p = true ∨ ∀ node ∈ nodes, node.IsValue) →
      Oblivious p p (evalAll ctx enter nodes)
  | [], _ => .pure []
  | node :: nodes, h => by
    have hnode := h.imp_right fun h => h node (.head _)
    have hnodes := h.imp_right fun h => (List.forall_mem_cons.mp h).2
    exact (oblivious_eval henter node hnode).bind fun value =>
      (oblivious_evalAll henter nodes hnodes).bind fun values => .pure (value :: values)

/-- Only the indices of a variable are evaluated. -/
theorem oblivious_slot (henter : ∀ routine args loc, Oblivious p p (enter routine args loc)) :
    ∀ ref : Reference Node, (p = true ∨ ∀ index ∈ ref.indices, index.IsValue) →
      Oblivious p p (slot ctx enter ref)
  | ⟨_, indices, _⟩, h => (oblivious_evalAll henter indices h).bind fun values => .pure _

/-- Targets of input, each found before its input is taken. -/
theorem oblivious_readAll (henter : ∀ routine args loc, Oblivious p p (enter routine args loc))
    (loc : Location) : ∀ targets : List (Reference Node),
      (p = true ∨ ∀ target ∈ targets, (Node.var target).IsValue) →
        Oblivious p p (readAll ctx enter loc targets)
  | [], _ => .pure ()
  | target :: targets, h => by
    have htarget := h.imp_right fun h => match h target (.head _) with | .var _ hindices => hindices
    have htargets := h.imp_right fun h => (List.forall_mem_cons.mp h).2
    exact (oblivious_slot henter target htarget).bind fun key =>
      (oblivious_next loc).bind fun value => (oblivious_save key value).bind fun _ =>
        oblivious_readAll henter loc targets htargets

/-- Items of output; an end of line is not evaluated. -/
theorem oblivious_printAll (henter : ∀ routine args loc, Oblivious p p (enter routine args loc)) :
    ∀ items : List Node, (p = true ∨ ∀ item ∈ items, item.IsValue) →
      Oblivious p p (printAll ctx enter items)
  | [], _ => .pure ()
  | item :: items, h => by
    have hmore := oblivious_printAll henter items
      (h.imp_right fun h => (List.forall_mem_cons.mp h).2)
    by_cases hendl : ∃ loc, item = .endl loc
    · -- An end of line is printed without being evaluated.
      obtain ⟨loc, rfl⟩ := hendl
      exact (oblivious_print _).bind fun _ => hmore
    · have hitem : ∀ loc, item ≠ .endl loc := fun loc h => hendl ⟨loc, h⟩
      rw [printAll_cons_of_ne_endl hitem]
      exact (oblivious_eval henter item (h.imp_right fun h => h item (.head _))).bind fun value =>
        (oblivious_print _).bind fun _ => hmore

end

end

/-! ## Section 4: Statements -/

section

variable {ctx : Context} {enter : Enter} {p : Bool}

theorem oblivious_holds (henter : ∀ routine args loc, Oblivious p p (enter routine args loc))
    {condition : Node} (h : p = true ∨ condition.IsValue) :
    Oblivious p p (holds ctx enter condition) :=
  (oblivious_eval henter condition h).bind fun value => .pure (value != 0)

theorem oblivious_goesOn (henter : ∀ routine args loc, Oblivious p p (enter routine args loc))
    {condition : Node} (h : p = true ∨ condition.IsValue) :
    Oblivious p p (goesOn ctx enter condition) := by
  unfold goesOn
  split
  · exact .pure true
  · exact oblivious_holds henter h

/-- A round of a loop after its step has been counted. -/
def oneRound (body : Exec Flow) (step : Exec Unit) : Exec Flow := do
  match ← body with
  | .returned value => return .returned value
  | .normal =>
    step
    return .normal

/-- A loop that may begin one more round, by that round and the loop after it. -/
theorem rounds_succ (ctx : Context) (condition : Exec Bool) (body : Exec Flow) (step : Exec Unit)
    (budget : Nat) :
    rounds ctx condition body step (budget + 1) = (do
      if ← condition then
        tick ctx
        match ← oneRound body step with
        | .returned value => return .returned value
        | .normal => rounds ctx condition body step budget
      else return .normal) := by
  rw [rounds, oneRound]
  refine bind_congr fun goes => ?_
  cases goes with
  | false => rfl
  | true =>
    refine bind_congr fun _ => ?_
    rw [bind_assoc]
    refine bind_congr fun flow => ?_
    cases flow with
    | returned value => rfl
    | normal => simp only [bind_assoc, pure_bind]

/-- Two loops without a limit on steps, by induction on how many rounds they may begin. -/
theorem parallel_rounds (hlimit : ctx.limits.maxSteps = none) {condition condition' : Exec Bool}
    {body body' : Exec Flow} {step step' : Exec Unit} (hcondition : Parallel p p condition condition')
    (hround : Parallel p p (oneRound body step) (oneRound body' step')) (budget : Nat) :
    Parallel p p (rounds ctx condition body step budget)
      (rounds ctx condition' body' step' budget) := by
  induction budget with
  | zero =>
    refine hcondition.bind fun goes => ?_
    cases goes with
    | false => exact .pure Flow.normal
    | true =>
      -- No round may be begun, and both halt where one would be.
      exact (oblivious_tick hlimit).bind fun _ => .throw .outOfBudget
  | succ budget ih =>
    rw [rounds_succ, rounds_succ]
    refine hcondition.bind fun goes => ?_
    cases goes with
    | false => exact .pure Flow.normal
    | true =>
      refine (oblivious_tick hlimit).bind fun _ => hround.bind fun flow => ?_
      cases flow with
      | returned value =>
        -- A return ends both loops; otherwise both have a round less to begin.
        exact .pure (Flow.returned value)
      | normal => exact ih

/-- A round ends alike if its body and its step do. -/
theorem parallel_oneRound {body body' : Exec Flow} {step step' : Exec Unit}
    (hbody : Parallel p p body body') (hstep : Parallel p p step step') :
    Parallel p p (oneRound body step) (oneRound body' step') := by
  refine hbody.bind fun flow => ?_
  cases flow with
  | returned value => exact .pure (Flow.returned value)
  | normal => exact hstep.bind fun _ => .pure Flow.normal

/-- An expression that stands as a statement. -/
theorem oblivious_alone (hlimit : ctx.limits.maxSteps = none)
    (henter : ∀ routine args loc, Oblivious true true (enter routine args loc))
    {node : Node} (hnode : node.loc?.isSome) :
    Oblivious p p (do
      arrive ctx node
      let _ ← eval ctx enter node
      return .normal : Exec Flow) := by
  refine .weaken ?_ p
  exact (oblivious_arrive_of_loc hlimit hnode).bind fun _ =>
    (oblivious_eval henter node (.inl rfl)).bind fun _ => .pure Flow.normal

mutual

/-- Bookkeeping does not matter to a statement, wherever the machines are placed. -/
theorem oblivious_exec (hlimit : ctx.limits.maxSteps = none)
    (henter : ∀ routine args loc, Oblivious true true (enter routine args loc))
    (budget : Nat) :
    ∀ (node : Node) (p : Bool), Oblivious p p (exec ctx enter budget node)
  | .sequence statements, p => oblivious_execAll hlimit henter budget statements p
  -- The empty statement has no place, but it evaluates nothing that would look at it.
  | .empty, _ =>
    (oblivious_arrive hlimit .empty).bind fun _ =>
      (Parallel.pure (0 : Int32)).bind fun _ => .pure Flow.normal
  -- From here on a statement has a place: after it has been arrived at, the machines are placed alike.
  | .declaration name loc, p => by
    refine .weaken ((oblivious_arrive_of_loc hlimit rfl).bind fun _ =>
      .get_bind fun {m m'} hm => ?_) p
    obtain ⟨steps, loc, -, -⟩ := hm
    exact (oblivious_note _).bind fun _ => (oblivious_declare name).bind fun _ => .pure Flow.normal
  | .ifElse condition thenBranch elseBranch loc, p => by
    refine .weaken ((oblivious_arrive_of_loc hlimit rfl).bind fun _ =>
      (oblivious_holds henter (.inl rfl)).bind fun goes => ?_) p
    cases goes with
    | true => exact oblivious_exec hlimit henter budget thenBranch true
    | false => exact oblivious_execElse hlimit henter budget elseBranch true
  | .whileLoop condition body loc, p => by
    have hround := parallel_oneRound (oblivious_exec hlimit henter budget body true) (.pure ())
    exact .weaken ((oblivious_arrive_of_loc hlimit rfl).bind fun _ =>
      parallel_rounds hlimit (oblivious_holds henter (.inl rfl)) hround budget) p
  | .forLoop init condition step body loc, p => by
    have hstep : Oblivious true true (do let _ ← eval ctx enter step : Exec Unit) :=
      (oblivious_eval henter step (.inl rfl)).bind fun _ => .pure ()
    have hround := parallel_oneRound (oblivious_exec hlimit henter budget body true) hstep
    refine .weaken ((oblivious_arrive_of_loc hlimit rfl).bind fun _ =>
      (oblivious_exec hlimit henter budget init true).bind fun flow => ?_) p
    cases flow with
    | returned value => exact .pure (Flow.returned value)
    | normal => exact parallel_rounds hlimit (oblivious_goesOn henter (.inl rfl)) hround budget
  | .block body loc, p =>
    .weaken ((oblivious_arrive_of_loc hlimit rfl).bind fun _ =>
      oblivious_inScope (oblivious_exec hlimit henter budget body true)) p
  | .giveBack value loc, p =>
    .weaken ((oblivious_arrive_of_loc hlimit rfl).bind fun _ =>
      (oblivious_eval henter value (.inl rfl)).bind fun v => .pure (Flow.returned v)) p
  | .literal _ _, _ => oblivious_alone hlimit henter rfl
  | .var _, _ => oblivious_alone hlimit henter rfl
  | .call _ _ _, _ => oblivious_alone hlimit henter rfl
  | .unary _ _ _, _ => oblivious_alone hlimit henter rfl
  | .binary _ _ _ _, _ => oblivious_alone hlimit henter rfl
  | .assignment _ _ _, _ => oblivious_alone hlimit henter rfl
  | .input _ _, _ => oblivious_alone hlimit henter rfl
  | .output _ _, _ => oblivious_alone hlimit henter rfl
  | .endl _, _ => oblivious_alone hlimit henter rfl

/-- Statements one after the other, until one of them returns. -/
theorem oblivious_execAll (hlimit : ctx.limits.maxSteps = none)
    (henter : ∀ routine args loc, Oblivious true true (enter routine args loc))
    (budget : Nat) :
    ∀ (nodes : List Node) (p : Bool), Oblivious p p (execAll ctx enter budget nodes)
  | [], _ => .pure Flow.normal
  | node :: nodes, p =>
    (oblivious_exec hlimit henter budget node p).bind fun flow => by
      cases flow with
      | normal => exact oblivious_execAll hlimit henter budget nodes p
      | returned value => exact .pure (Flow.returned value)

/-- A branch that is not there does nothing. -/
theorem oblivious_execElse (hlimit : ctx.limits.maxSteps = none)
    (henter : ∀ routine args loc, Oblivious true true (enter routine args loc))
    (budget : Nat) :
    ∀ (branch : Option Node) (p : Bool), Oblivious p p (execElse ctx enter budget branch)
  | none, _ => .pure Flow.normal
  | some node, p => oblivious_exec hlimit henter budget node p

end

end

/-! ## Section 5: Calls -/

/-- Bookkeeping does not matter to a call, by induction on how deeply it may nest further ones. -/
theorem oblivious_activate {ctx : Context} (hlimit : ctx.limits.maxSteps = none) (budget : Nat)
    (p : Bool) (routine : Routine) (args : List Int32) (loc : Location) :
    Oblivious p p (activate ctx budget routine args loc) := by
  induction budget generalizing p routine args loc with
  | zero =>
    rw [activate_zero]
    refine .get_bind fun {m m'} hm => ?_
    -- Both are as deep in calls, and so the call is refused on both sides or on none.
    obtain ⟨steps, place, -, -⟩ := hm
    dsimp only
    split
    · exact .fail _
    · exact (oblivious_tick hlimit).bind fun _ => .throw .outOfBudget
  | succ budget ih =>
    -- The body runs with calls of the smaller budget, from wherever the machines are placed.
    have hbody : Oblivious p p (do
        bindParams routine.params args
        exec ctx (activate ctx budget) budget routine.body) :=
      (oblivious_bindParams routine.params args).bind fun _ =>
        oblivious_exec hlimit (ih true) budget routine.body p
    rw [activate_succ]
    refine .get_bind fun {m m'} hm => ?_
    obtain ⟨steps, place, -, -⟩ := hm
    dsimp only
    split
    · exact .fail _
    · exact (oblivious_tick hlimit).bind fun _ => (oblivious_note _).bind fun _ =>
        (oblivious_inCall routine.name (oblivious_inScope hbody)).bind fun flow => .pure flow.value

end Stepwise
