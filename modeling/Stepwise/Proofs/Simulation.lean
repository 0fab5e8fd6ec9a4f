import Stepwise.Proofs.Discipline
import Stepwise.Proofs.Relabeling

/-!
# Simulations

Two runs are compared step by step. A coupling says which machines correspond to each other, how the
labels of the second tree come from those of the first, and which halts of the first run are escapes:
there the second run may go on, and all that is known then is that it prints more and counts more
steps.

A coupling is sound for two contexts if every primitive action respects it. Then every tree respects
it: both evaluations end in the same way with machines that correspond, or the first one escapes.

## Main results

* `Coupling.Sound.simulates_eval`, `Coupling.Sound.simulates_exec`: evaluation respects a sound coupling.
* `Coupling.Sound.simulates_activate`: so do calls, whose budgets may differ.
* `Coupling.Sound.simulates_whole`: so do whole runs.
-/

namespace Stepwise

open Machine Exec

/-! ## Section 1: Output and steps only grow -/

/-- More has been printed and more steps have been counted. -/
structure Machine.Grown (m m' : Machine) : Prop where
  output : m.output.bytes.toList <+: m'.output.bytes.toList
  steps : m.steps ≤ m'.steps

theorem Machine.Grown.refl (m : Machine) : m.Grown m :=
  ⟨List.prefix_rfl, Nat.le_refl _⟩

theorem Machine.Grown.trans {m m' m'' : Machine} (h : m.Grown m') (h' : m'.Grown m'') :
    m.Grown m'' :=
  ⟨h.output.trans h'.output, Nat.le_trans h.steps h'.steps⟩

/-- A change after which more has been printed and more steps have been counted. -/
def Grows : Change := fun m _ m' => m.Grown m'

theorem grows_closed : Grows.Closed :=
  ⟨.refl, .trans⟩

/-- A change of anything but the output and the steps. -/
theorem grows_of_eq {m m' : Machine} {halt : Option Halt} (houtput : m'.output = m.output)
    (hsteps : m'.steps = m.steps) : Grows m halt m' := by
  refine ⟨?_, ?_⟩
  · exact houtput ▸ List.prefix_rfl
  · exact Nat.le_of_eq hsteps.symm

theorem grows_tick (ctx : Context) : Obeys Grows (tick ctx) := by
  intro m
  rw [final_tick]
  exact ⟨List.prefix_rfl, Nat.le_succ _⟩

/-- A record is added to the trace, which is not output. -/
theorem grows_record (label : String) : Obeys Grows (record label) := by
  intro m
  unfold record
  split
  · exact .refl m
  · dsimp only
    split <;> exact grows_of_eq rfl rfl

theorem grows_next (loc : Location) : Obeys Grows (next loc) := by
  intro m
  unfold next
  split <;> exact grows_of_eq rfl rfl

theorem grows_putByte (byte : UInt8) : Obeys Grows (print (·.putByte byte)) := by
  intro m
  refine ⟨?_, Nat.le_refl _⟩
  show m.output.bytes.toList <+: (m.output.bytes.push byte).toList
  rw [Array.toList_push]
  exact List.prefix_append _ _

/-- The digits of an integer are added behind what has been printed. -/
theorem grows_putInt (value : Int32) : Obeys Grows (print (·.putInt value)) := by
  intro m
  refine ⟨?_, Nat.le_refl _⟩
  show m.output.bytes.toList <+: (m.output.bytes ++ _).toList
  rw [Array.toList_append]
  exact List.prefix_append _ _

/-- Under every discipline of the program, output and steps only grow. -/
def growthDiscipline (ctx : Context) : Discipline ctx where
  value _ := Grows
  statement _ := Grows
  value_closed _ := grows_closed
  statement_closed _ := grows_closed
  value_statement h := h
  value_le _ h := h
  statement_le _ h := h
  fail _ _ _ := .refl
  place _ _ _ := grows_of_eq rfl rfl
  tick _ := grows_tick ctx
  record _ := grows_record
  note _ _ _ := grows_of_eq rfl rfl
  save _ _ _ _ := grows_of_eq rfl rfl
  next _ := grows_next
  newline _ := grows_putByte 10
  putByte _ := grows_putByte
  putInt _ := grows_putInt
  declare _ _ _ := grows_of_eq rfl rfl
  scope h := ⟨h.output, h.steps⟩
  call _ h := ⟨h.output, h.steps⟩
  spend h := .bind grows_closed (grows_tick ctx) fun _ => h
  spendStatement h := .bind grows_closed (grows_tick ctx) fun _ => h
  spent := .bind grows_closed (grows_tick ctx) fun _ => .refl

/-! ## Section 2: Couplings -/

/-- How two runs correspond. -/
structure Coupling where
  /-- The labels of the second tree. -/
  relabeling : Relabeling
  /-- The machines that correspond to each other. -/
  alike : Machine → Machine → Prop
  /-- The halts of the first run at which the second one may go on. -/
  escapes : Halt → Prop

namespace Coupling

variable (C : Coupling) {α β γ δ : Type}

/-- How two results correspond: both are values, both are halts, or the first one is an escape. -/
inductive Agrees (v : α → β → Prop) :
    EStateM.Result Halt Machine α → EStateM.Result Halt Machine β → Prop where
  | ok {a : α} {b : β} {m m' : Machine} (hv : v a b) (hm : C.alike m m') :
      Agrees v (.ok a m) (.ok b m')
  | error {halt : Halt} {m m' : Machine} (hm : C.alike m m') :
      Agrees v (.error halt m) (.error (halt.relabel C.relabeling) m')
  | escape {halt : Halt} {m : Machine} {result : EStateM.Result Halt Machine β}
      (hhalt : C.escapes halt) (hm : m.Grown (final result)) : Agrees v (.error halt m) result

/-- On machines that correspond, two actions give results that correspond; and the second one lets
output and steps grow, wherever it starts. -/
structure Simulates (v : α → β → Prop) (x : Exec α) (y : Exec β) : Prop where
  agrees {m m' : Machine} : C.alike m m' → C.Agrees v (x m) (y m')
  grows : Obeys Grows y

variable {C}

theorem Agrees.error_of_eq {v : α → β → Prop} {halt halt' : Halt} {m m' : Machine}
    (h : halt.relabel C.relabeling = halt') (hm : C.alike m m') :
    C.Agrees v (.error halt m) (.error halt' m') := by
  subst h
  exact .error hm

theorem Simulates.pure {v : α → β → Prop} {a : α} {b : β} (h : v a b) :
    C.Simulates v (pure a) (pure b) :=
  ⟨fun hm => .ok h hm, .pure grows_closed b⟩

/-- One pair of actions after another. Where the first run escapes, the second one lets its output grow on. -/
theorem Simulates.bind {v : α → β → Prop} {w : γ → δ → Prop} {x : Exec α} {y : Exec β}
    {f : α → Exec γ} {g : β → Exec δ} (hx : C.Simulates v x y)
    (hf : ∀ {a b}, v a b → C.Simulates w (f a) (g b)) (hg : ∀ b, Obeys Grows (g b)) :
    C.Simulates w (x >>= f) (y >>= g) := by
  refine ⟨fun {m m'} hm => ?_, .bind grows_closed hx.grows hg⟩
  have hxy := hx.agrees hm
  simp only [Bind.bind, EStateM.bind]
  generalize x m = r at hxy
  generalize hr' : y m' = r' at hxy
  cases hxy with
  | ok hv hm => exact (hf hv).agrees hm
  | error hm => exact .error hm
  | escape hhalt hgrown =>
    refine .escape hhalt (hgrown.trans ?_)
    -- The second run goes on from where it was when the first one escaped.
    cases r' with
    | ok b m'' => exact hg b m''
    | error halt m'' => exact .refl m''

/-- Two actions that give the same value, and what is done with it. -/
theorem Simulates.andThen {w : γ → δ → Prop} {x y : Exec α} {f : α → Exec γ} {g : α → Exec δ}
    (hx : C.Simulates Eq x y) (hf : ∀ a, C.Simulates w (f a) (g a)) :
    C.Simulates w (x >>= f) (y >>= g) := by
  refine hx.bind ?_ fun a => (hf a).grows
  rintro a _ rfl
  exact hf a

theorem Simulates.fail {v : α → β → Prop} {fault fault' : Fault}
    (h : fault.relabel C.relabeling = fault') : C.Simulates v (fail fault) (fail fault') :=
  ⟨fun hm => .error_of_eq (congrArg Halt.fault h) hm, fun m => .refl m⟩

/-- An action that looks at the machine first. -/
theorem Simulates.get_bind {w : γ → δ → Prop} {f : Machine → Exec γ} {g : Machine → Exec δ}
    (hf : ∀ {m m'}, C.alike m m' → C.Simulates w (f m) (g m')) (hg : ∀ m, Obeys Grows (g m)) :
    C.Simulates w (get >>= f) (get >>= g) :=
  ⟨fun hm => (hf hm).agrees hm, .get_bind hg⟩

/-- What is done afterwards in any case keeps results that correspond. -/
theorem Agrees.andThen {v : α → β → Prop} {x : Exec α} {y : Exec β} {m m' : Machine}
    {after after' : Machine → Machine} (h : C.Agrees v (x m) (y m'))
    (halike : ∀ {n n'}, C.alike n n' → C.alike (after n) (after' n'))
    (hgrown : ∀ {n n' : Machine}, n.Grown n' → (after n).Grown (after' n')) :
    C.Agrees v (Exec.andThen x after m) (Exec.andThen y after' m') := by
  unfold Exec.andThen
  generalize x m = r at h
  generalize y m' = r' at h
  cases h with
  | ok hv hm => exact .ok hv (halike hm)
  | error hm => exact .error (halike hm)
  | escape hhalt hm =>
    refine .escape hhalt ?_
    cases r' <;> exact hgrown hm

/-- A step is counted alike under the same limit, on machines that have counted as many. -/
theorem Agrees.tick {ctx ctx' : Context} {m m' : Machine}
    (hlimit : ctx'.limits.maxSteps = ctx.limits.maxSteps) (hsteps : m'.steps = m.steps)
    (hloc : m'.loc = C.relabeling.place m.loc)
    (hm : C.alike { m with steps := m.steps + 1 } { m' with steps := m'.steps + 1 }) :
    C.Agrees Eq (tick ctx m) (tick ctx' m') := by
  rw [tick_apply, tick_apply, hlimit]
  cases ctx.limits.maxSteps with
  | none => exact .ok rfl hm
  | some limit =>
    -- One test decides for both machines.
    dsimp only
    rw [hsteps] at hm ⊢
    split
    · exact .error_of_eq (congrArg (fun loc => Halt.fault (.stepLimit limit loc)) hloc.symm) hm
    · exact .ok rfl hm

/-- An integer is taken alike from the same pool. -/
theorem Agrees.next (loc : Location) {m m' : Machine} (hpool : m'.pool = m.pool)
    (hm : C.alike m m') (htaken : ∀ pool, C.alike { m with pool := pool } { m' with pool := pool }) :
    C.Agrees Eq (next loc m) (next (C.relabeling.place loc) m') := by
  unfold Exec.next
  rw [hpool]
  split
  · exact .ok rfl (htaken _)
  · exact .error_of_eq rfl hm

/-! ## Section 3: Sound couplings -/

/-- Every primitive action respects the coupling. -/
structure Sound (C : Coupling) (ctx ctx' : Context) : Prop where
  -- What machines that correspond have in common.
  output {m m' : Machine} : C.alike m m' → m'.output = m.output
  steps {m m' : Machine} : C.alike m m' → m'.steps = m.steps
  scope {m m' : Machine} : C.alike m m' → m'.scope = m.scope
  depth {m m' : Machine} : C.alike m m' → m'.store.depth = m.store.depth
  callDepth {m m' : Machine} : C.alike m m' → m'.callDepth = m.callDepth
  loc {m m' : Machine} : C.alike m m' → m'.loc = C.relabeling.place m.loc
  load (name : String) (indices : List Int32) {m m' : Machine} : C.alike m m' →
    m'.store.get m'.scope (Slot.key (C.relabeling.name name) indices) =
      m.store.get m.scope (Slot.key name indices)
  -- The functions and the limits.
  putchar (callee : String) : C.relabeling.routine callee = putchar ↔ callee = putchar
  known {callee : String} {routine : Routine} : ctx.program.find? callee = some routine →
    ctx'.program.find? (C.relabeling.routine callee) = some (routine.relabel C.relabeling)
  unknown {callee : String} : ctx.program.find? callee = none →
    ctx'.program.find? (C.relabeling.routine callee) = none ∨
      ∀ loc, C.escapes (.fault (.undefinedRoutine callee loc))
  maxDepth : ctx'.limits.maxDepth = ctx.limits.maxDepth ∨
    ctx.limits.maxDepth ≤ ctx'.limits.maxDepth ∧
      ∀ loc, C.escapes (.fault (.callDepth ctx.limits.maxDepth loc))
  -- Actions that can halt.
  tick {m m' : Machine} : C.alike m m' → C.Agrees Eq (tick ctx m) (tick ctx' m')
  record (label : String) {m m' : Machine} : C.alike m m' →
    C.Agrees Eq (record label m) (record label m')
  next (loc : Location) {m m' : Machine} : C.alike m m' →
    C.Agrees Eq (next loc m) (next (C.relabeling.place loc) m')
  -- Changes of the machine.
  place (loc : Location) {m m' : Machine} : C.alike m m' →
    C.alike { m with loc := loc } { m' with loc := C.relabeling.place loc }
  noted (event : Event) {m m' : Machine} : C.alike m m' →
    C.alike (m.noted event) (m'.noted (event.relabel C.relabeling))
  save (name : String) (indices : List Int32) (value : Int32) {m m' : Machine} : C.alike m m' →
    C.alike { m with store := m.store.set m.scope (Slot.key name indices) value }
      { m' with
        store := m'.store.set m'.scope (Slot.key (C.relabeling.name name) indices) value }
  declare (name : String) {m m' : Machine} : C.alike m m' →
    C.alike { m with store := m.store.declare m.scope name }
      { m' with store := m'.store.declare m'.scope (C.relabeling.name name) }
  print (put : Output → Output) {m m' : Machine} : C.alike m m' →
    C.alike { m with output := put m.output } { m' with output := put m'.output }
  opened {m m' : Machine} : C.alike m m' → C.alike m.opened m'.opened
  closed {m m' n n' : Machine} : C.alike m m' → C.alike n n' →
    C.alike (n.closed m.scope) (n'.closed m'.scope)
  called (routine : String) {m m' : Machine} : C.alike m m' →
    C.alike (m.called routine) (m'.called (C.relabeling.routine routine))
  returned {m m' n n' : Machine} : C.alike m m' → C.alike n n' →
    C.alike (n.returned m.routine) (n'.returned m'.routine)
  mainBegun (loc : Location) {m m' : Machine} : C.alike m m' →
    C.alike { m with routine := mainName, loc := loc, callDepth := 1 }
      { m' with routine := mainName, loc := C.relabeling.place loc, callDepth := 1 }
  mainEnded {m m' : Machine} : C.alike m m' →
    C.alike { m with callDepth := 0 } { m' with callDepth := 0 }

/-- Entering a function respects the coupling. -/
structure EntersAlike (C : Coupling) (enter enter' : Enter) : Prop where
  simulates (routine : Routine) (args : List Int32) (loc : Location) :
    C.Simulates Eq (enter routine args loc)
      (enter' (routine.relabel C.relabeling) args (C.relabeling.place loc))
  grows (routine : Routine) (args : List Int32) (loc : Location) :
    Obeys Grows (enter' routine args loc)

/-- The budgets of two runs: they are the same, or the first one is smaller and escapes when it is
used up. -/
def Affords (C : Coupling) (budget budget' : Nat) : Prop :=
  budget' = budget ∨ budget ≤ budget' ∧ C.escapes .outOfBudget

/-- Where the first run has budget left, the second one has. -/
theorem Affords.exists_succ {budget budget' : Nat} (h : C.Affords (budget + 1) budget') :
    ∃ less, budget' = less + 1 ∧ C.Affords budget less := by
  rcases h with rfl | ⟨hle, hescapes⟩
  · exact ⟨budget, rfl, .inl rfl⟩
  · exact ⟨budget' - 1, by omega, .inr ⟨by omega, hescapes⟩⟩

namespace Sound

variable {ctx ctx' : Context} (hC : C.Sound ctx ctx')
include hC

/-- Machines that correspond have printed and counted as much as each other. -/
theorem grown {m m' : Machine} (h : C.alike m m') : m.Grown m' := by
  refine ⟨?_, ?_⟩
  · exact hC.output h ▸ List.prefix_rfl
  · exact Nat.le_of_eq (hC.steps h).symm

theorem simulates_tick : C.Simulates Eq (Exec.tick ctx) (Exec.tick ctx') :=
  ⟨hC.tick, grows_tick ctx'⟩

theorem simulates_note (event : Event) :
    C.Simulates Eq (note event) (note (event.relabel C.relabeling)) :=
  ⟨fun hm => .ok rfl (hC.noted event hm), fun _ => grows_of_eq rfl rfl⟩

/-- A variable holds the same value under its new name. -/
theorem simulates_load (name : String) (indices : List Int32) :
    C.Simulates Eq (Exec.load (Slot.key name indices))
      (Exec.load (Slot.key (C.relabeling.name name) indices)) :=
  ⟨fun hm => .ok (hC.load name indices hm).symm hm, fun m => .refl m⟩

theorem simulates_save (name : String) (indices : List Int32) (value : Int32) :
    C.Simulates Eq (Exec.save (Slot.key name indices) value)
      (Exec.save (Slot.key (C.relabeling.name name) indices) value) :=
  ⟨fun hm => .ok rfl (hC.save name indices value hm), fun _ => grows_of_eq rfl rfl⟩

theorem simulates_declare (name : String) :
    C.Simulates Eq (Exec.declare name) (Exec.declare (C.relabeling.name name)) :=
  ⟨fun hm => .ok rfl (hC.declare name hm), fun _ => grows_of_eq rfl rfl⟩

theorem simulates_next (loc : Location) :
    C.Simulates Eq (Exec.next loc) (Exec.next (C.relabeling.place loc)) :=
  ⟨hC.next loc, grows_next _⟩

theorem simulates_print {put : Output → Output} (hput : Obeys Grows (Exec.print put)) :
    C.Simulates Eq (Exec.print put) (Exec.print put) :=
  ⟨fun hm => .ok rfl (hC.print put hm), hput⟩

/-- Both runs come to a node of the same label, at places that correspond. -/
theorem simulates_arrive (node : Node) :
    C.Simulates Eq (arrive ctx node) (arrive ctx' (node.relabel C.relabeling)) := by
  have hcount : C.Simulates Eq (do Exec.tick ctx; Exec.record node.label)
      (do Exec.tick ctx'; Exec.record node.label) :=
    hC.simulates_tick.andThen fun _ => ⟨hC.record node.label, grows_record node.label⟩
  unfold arrive
  rw [Node.loc?_relabel, Node.label_relabel]
  cases node.loc? with
  | none => exact hcount
  | some loc =>
    have hplace : C.Simulates Eq (modify fun m => { m with loc := loc } : Exec Unit)
        (modify fun m => { m with loc := C.relabeling.place loc } : Exec Unit) :=
      ⟨fun hm => .ok rfl (hC.place loc hm), fun _ => grows_of_eq rfl rfl⟩
    exact hplace.andThen fun _ => hcount

/-- A statement is refused as a value under the same label, at places that correspond. -/
theorem simulates_refuse (node : Node) :
    C.Simulates Eq (refuse node) (refuse (node.relabel C.relabeling)) := by
  refine ⟨fun {m m'} hm => ?_, fun m => .refl m⟩
  have hfault : (Fault.statementAsValue node.label (node.loc?.getD m.loc)).relabel C.relabeling =
      .statementAsValue (node.relabel C.relabeling).label
        ((node.relabel C.relabeling).loc?.getD m'.loc) := by
    rw [Node.label_relabel, Node.loc?_relabel, hC.loc hm]
    cases node.loc? <;> rfl
  exact .error_of_eq (congrArg Halt.fault hfault) hm

/-! ## Section 4: Expressions -/

omit hC

variable {enter enter' : Enter}

/-- The second run on its own lets output and steps grow. -/
theorem grows_eval (henter : C.EntersAlike enter enter') (ctx : Context) (node : Node) :
    Obeys Grows (eval ctx enter' node) := by
  have h : ∀ routine args loc,
      Obeys ((growthDiscipline ctx).value 0) (enter' routine args loc) := henter.grows
  exact (growthDiscipline ctx).obeys_eval h node

mutual

/-- The evaluation of an expression respects a sound coupling, if calls do. -/
theorem simulates_eval (hC : C.Sound ctx ctx') (henter : C.EntersAlike enter enter') : ∀ node,
    C.Simulates Eq (eval ctx enter node) (eval ctx' enter' (node.relabel C.relabeling))
  | .empty => .pure rfl
  | .endl _ => .pure rfl
  | .literal _ _ => .pure rfl
  | .var ref => by
    refine (simulates_slot hC henter ref).bind ?_ fun key m => .refl m
    rintro key _ ⟨name, indices, rfl, rfl⟩
    exact hC.simulates_load name indices
  | .assignment target value _ =>
    (simulates_eval hC henter value).andThen fun v => by
      refine (simulates_slot hC henter target).bind ?_ fun key =>
        .bind grows_closed (fun m => grows_of_eq rfl rfl) fun _ m => .refl m
      rintro key _ ⟨name, indices, rfl, rfl⟩
      exact (hC.simulates_save name indices v).andThen fun _ => .pure rfl
  | .unary _ operand _ => (simulates_eval hC henter operand).andThen fun _ => .pure rfl
  | .binary op left right loc =>
    (simulates_eval hC henter left).andThen fun x =>
      (simulates_eval hC henter right).andThen fun y => by
        cases op.apply? x y with
        | some value => exact .pure rfl
        | none => exact .fail rfl
  | .call callee args loc => by
    have hargs := simulates_evalAll hC henter args
    by_cases hname : callee = Machine.putchar
    · subst hname
      have hputchar := (hC.putchar Machine.putchar).mpr rfl
      rw [Node.relabel, hputchar]
      by_cases hlength : args.length = 1
      · obtain ⟨arg, rfl⟩ := List.length_eq_one_iff.mp hlength
        rw [relabelAll, relabelAll, eval_putchar, eval_putchar]
        exact (simulates_eval hC henter arg).andThen fun value =>
          (hC.simulates_print (grows_putByte _)).andThen fun _ => .pure rfl
      · rw [eval_putchar_of_length_ne hlength,
          eval_putchar_of_length_ne (by rwa [length_relabelAll]), length_relabelAll]
        refine .fail ?_
        rw [Fault.relabel, hputchar]
    · -- No other function is relabeled to the one that prints a byte, so both sides look for theirs.
      have hname' : C.relabeling.routine callee ≠ Machine.putchar :=
        fun h => hname ((hC.putchar callee).mp h)
      cases hfind : ctx.program.find? callee with
      | none =>
        rw [eval_call_of_unknown hname hfind]
        rcases hC.unknown hfind with hfind' | hescapes
        · rw [Node.relabel, eval_call_of_unknown hname' hfind']
          exact .fail rfl
        · -- The second program may know the function; all that is left to say is that output grows.
          have hgrows := grows_eval henter ctx' ((Node.call callee args loc).relabel C.relabeling)
          exact ⟨fun hm => .escape (hescapes loc) ((hC.grown hm).trans (hgrows _)), hgrows⟩
      | some routine =>
        have hfind' := hC.known hfind
        rw [Node.relabel]
        by_cases hcount : routine.params.length = args.length
        · have hcount' : (routine.relabel C.relabeling).params.length =
              (relabelAll C.relabeling args).length := by
            simpa [Routine.relabel] using hcount
          rw [eval_call hname hfind hcount, eval_call hname' hfind' hcount']
          exact hargs.andThen fun values => henter.simulates routine values loc
        · have hcount' : (routine.relabel C.relabeling).params.length ≠
              (relabelAll C.relabeling args).length := by
            simpa [Routine.relabel] using hcount
          rw [eval_call_of_length_ne hname hfind hcount,
            eval_call_of_length_ne hname' hfind' hcount']
          exact .fail (by simp [Fault.relabel, Routine.relabel])
  | .input targets loc => (simulates_readAll hC henter loc targets).andThen fun _ => .pure rfl
  | .output items _ => (simulates_printAll hC henter items).andThen fun _ => .pure rfl
  | .sequence statements => hC.simulates_refuse (.sequence statements)
  | .declaration name loc => hC.simulates_refuse (.declaration name loc)
  | .ifElse condition thenBranch elseBranch loc =>
    hC.simulates_refuse (.ifElse condition thenBranch elseBranch loc)
  | .whileLoop condition body loc => hC.simulates_refuse (.whileLoop condition body loc)
  | .forLoop init condition step body loc =>
    hC.simulates_refuse (.forLoop init condition step body loc)
  | .giveBack value loc => hC.simulates_refuse (.giveBack value loc)
  | .block body loc => hC.simulates_refuse (.block body loc)

/-- Expressions are evaluated one after the other in both runs. -/
theorem simulates_evalAll (hC : C.Sound ctx ctx') (henter : C.EntersAlike enter enter') : ∀ nodes,
    C.Simulates Eq (evalAll ctx enter nodes) (evalAll ctx' enter' (relabelAll C.relabeling nodes))
  | [] => .pure rfl
  | node :: nodes =>
    (simulates_eval hC henter node).andThen fun _ =>
      (simulates_evalAll hC henter nodes).andThen fun _ => .pure rfl

/-- The keys of a variable correspond to each other if they are those of its two names at the same
indices. -/
theorem simulates_slot (hC : C.Sound ctx ctx') (henter : C.EntersAlike enter enter') : ∀ ref,
    C.Simulates (fun key key' => ∃ name indices, key = Slot.key name indices ∧
        key' = Slot.key (C.relabeling.name name) indices)
      (slot ctx enter ref) (slot ctx' enter' (relabelRef C.relabeling ref))
  | ⟨name, indices, _⟩ =>
    (simulates_evalAll hC henter indices).andThen fun values => .pure ⟨name, values, rfl, rfl⟩

/-- Targets are found and filled one after the other in both runs. -/
theorem simulates_readAll (hC : C.Sound ctx ctx') (henter : C.EntersAlike enter enter')
    (loc : Location) : ∀ targets,
    C.Simulates Eq (readAll ctx enter loc targets)
      (readAll ctx' enter' (C.relabeling.place loc) (relabelRefs C.relabeling targets))
  | [] => .pure rfl
  | target :: targets => by
    have hmore := simulates_readAll hC henter loc targets
    refine (simulates_slot hC henter target).bind ?_ fun key =>
      .bind grows_closed (grows_next _) fun value =>
        .bind grows_closed (fun m => grows_of_eq rfl rfl) fun _ => hmore.grows
    rintro key _ ⟨name, indices, rfl, rfl⟩
    exact (hC.simulates_next loc).andThen fun value =>
      (hC.simulates_save name indices value).andThen fun _ => hmore

/-- Items are printed one after the other in both runs; no end of line becomes anything else. -/
theorem simulates_printAll (hC : C.Sound ctx ctx') (henter : C.EntersAlike enter enter') : ∀ items,
    C.Simulates Eq (printAll ctx enter items)
      (printAll ctx' enter' (relabelAll C.relabeling items))
  | [] => .pure rfl
  | item :: items => by
    have hmore := simulates_printAll hC henter items
    by_cases hendl : ∃ loc, item = .endl loc
    · obtain ⟨loc, rfl⟩ := hendl
      exact (hC.simulates_print (grows_putByte 10)).andThen fun _ => hmore
    · have hitem : ∀ loc, item ≠ .endl loc := fun loc h => hendl ⟨loc, h⟩
      have hitem' : ∀ loc, item.relabel C.relabeling ≠ .endl loc := by
        intro loc h
        cases item <;> simp_all [Node.relabel]
      rw [relabelAll, printAll_cons_of_ne_endl hitem, printAll_cons_of_ne_endl hitem']
      exact (simulates_eval hC henter item).andThen fun value =>
        (hC.simulates_print (grows_putInt value)).andThen fun _ => hmore

end

/-! ## Section 5: Statements -/

theorem simulates_holds (hC : C.Sound ctx ctx') (henter : C.EntersAlike enter enter')
    (condition : Node) :
    C.Simulates Eq (holds ctx enter condition)
      (holds ctx' enter' (condition.relabel C.relabeling)) :=
  (hC.simulates_eval henter condition).andThen fun _ => .pure rfl

/-- A condition that is left out is left out of both loops. -/
theorem simulates_goesOn (hC : C.Sound ctx ctx') (henter : C.EntersAlike enter enter')
    (condition : Node) :
    C.Simulates Eq (goesOn ctx enter condition)
      (goesOn ctx' enter' (condition.relabel C.relabeling)) := by
  unfold goesOn
  rw [Node.isEmpty_relabel]
  split
  · exact .pure rfl
  · exact hC.simulates_holds henter condition

/-- An escape, whatever the second run does instead. -/
theorem simulates_escape {v : α → β → Prop} (hC : C.Sound ctx ctx') {halt : Halt}
    (hhalt : C.escapes halt) {y : Exec β} (hy : Obeys Grows y) :
    C.Simulates v (throw halt) y :=
  ⟨fun hm => .escape hhalt ((hC.grown hm).trans (hy _)), hy⟩

theorem simulates_throw {v : α → β → Prop} : C.Simulates v (throw .outOfBudget : Exec α)
    (throw .outOfBudget : Exec β) :=
  ⟨fun hm => .error hm, fun m => .refl m⟩

/-- The rounds of the second loop on its own. -/
theorem grows_rounds {condition : Exec Bool} {body : Exec Flow} {step : Exec Unit}
    (hcondition : Obeys Grows condition) (hbody : Obeys Grows body) (hstep : Obeys Grows step)
    (ctx : Context) (budget : Nat) : Obeys Grows (rounds ctx condition body step budget) := by
  have h : Obeys ((growthDiscipline ctx).value 0) condition := hcondition
  exact (growthDiscipline ctx).obeys_rounds h hbody hstep (Nat.zero_le budget)

/-- The rounds of two loops, by induction on how many the first one may begin. -/
theorem simulates_rounds (hC : C.Sound ctx ctx') {condition condition' : Exec Bool}
    {body body' : Exec Flow} {step step' : Exec Unit}
    (hcondition : C.Simulates Eq condition condition') (hbody : C.Simulates Eq body body')
    (hstep : C.Simulates Eq step step') {budget budget' : Nat} (hbudget : C.Affords budget budget') :
    C.Simulates Eq (rounds ctx condition body step budget)
      (rounds ctx' condition' body' step' budget') := by
  induction budget generalizing budget' with
  | zero =>
    cases budget' with
    | zero =>
      refine hcondition.andThen fun holds => ?_
      cases holds with
      | false => exact .pure rfl
      | true => exact hC.simulates_tick.andThen fun _ => simulates_throw
    | succ budget' =>
      -- The first loop can begin no further round, and the second one goes on.
      obtain ⟨-, hescapes⟩ := hbudget.resolve_left (Nat.succ_ne_zero budget')
      refine hcondition.andThen fun holds => ?_
      cases holds with
      | false => exact .pure rfl
      | true =>
        refine hC.simulates_tick.andThen fun _ => hC.simulates_escape hescapes ?_
        refine .bind grows_closed hbody.grows fun flow => ?_
        cases flow with
        | returned value => exact .pure grows_closed (Flow.returned value)
        | normal =>
          exact .bind grows_closed hstep.grows fun _ =>
            grows_rounds hcondition.grows hbody.grows hstep.grows ctx' budget'
  | succ budget ih =>
    obtain ⟨budget', rfl, hless⟩ := hbudget.exists_succ
    refine hcondition.andThen fun holds => ?_
    cases holds with
    | false => exact .pure rfl
    | true =>
      refine hC.simulates_tick.andThen fun _ => hbody.andThen fun flow => ?_
      cases flow with
      | returned value => exact .pure rfl
      | normal => exact hstep.andThen fun _ => ih hless

/-- Scopes are opened and released alike. -/
theorem simulates_inScope {v : α → β → Prop} (hC : C.Sound ctx ctx') {x : Exec α} {y : Exec β}
    (h : C.Simulates v x y) : C.Simulates v (inScope x) (inScope y) := by
  refine ⟨fun {m m'} hm => ?_, ?_⟩
  · have hinside := (hC.simulates_note (.scopeEntered m.store.depth m.scope)).andThen fun _ => h
    rw [inScope_apply, inScope_apply, hC.depth hm, hC.scope hm]
    -- Releasing the scope is done on both sides, be it after a value, a halt or an escape.
    refine (hinside.agrees (hC.opened hm)).andThen (fun hn => ?_) fun hn => ⟨hn.output, hn.steps⟩
    have hclosed := hC.closed hm hn
    rwa [hC.scope hm] at hclosed
  · have hy : Obeys ((growthDiscipline ctx).statement 0) y := h.grows
    exact (growthDiscipline ctx).inScope hy

/-- Functions are entered and left alike, under their own names. -/
theorem simulates_inCall {v : α → β → Prop} (hC : C.Sound ctx ctx') (routine : String) {x : Exec α}
    {y : Exec β} (h : C.Simulates v x y) :
    C.Simulates v (inCall routine x) (inCall (C.relabeling.routine routine) y) := by
  refine ⟨fun {m m'} hm => ?_, ?_⟩
  · rw [inCall_apply, inCall_apply]
    exact (h.agrees (hC.called routine hm)).andThen (fun hn => hC.returned hm hn)
      fun hn => ⟨hn.output, hn.steps⟩
  · have hy : Obeys ((growthDiscipline ctx).value 0) y := h.grows
    exact (growthDiscipline ctx).inCall _ hy

/-- An expression that stands as a statement. -/
theorem simulates_alone (hC : C.Sound ctx ctx') (henter : C.EntersAlike enter enter') (node : Node) :
    C.Simulates Eq (do
      arrive ctx node
      let _ ← eval ctx enter node
      return .normal : Exec Flow) (do
      arrive ctx' (node.relabel C.relabeling)
      let _ ← eval ctx' enter' (node.relabel C.relabeling)
      return .normal : Exec Flow) :=
  (hC.simulates_arrive node).andThen fun _ =>
    (hC.simulates_eval henter node).andThen fun _ => .pure rfl

mutual

/-- Running a statement respects a sound coupling, if calls do. -/
theorem simulates_exec (hC : C.Sound ctx ctx') (henter : C.EntersAlike enter enter')
    {budget budget' : Nat} (hbudget : C.Affords budget budget') : ∀ node,
    C.Simulates Eq (exec ctx enter budget node)
      (exec ctx' enter' budget' (node.relabel C.relabeling))
  | .sequence statements => simulates_execAll hC henter hbudget statements
  | .declaration name loc =>
    (hC.simulates_arrive (.declaration name loc)).andThen fun _ => by
      refine .get_bind (fun {m m'} hm => ?_) fun m =>
        .bind grows_closed (fun _ => grows_of_eq rfl rfl) fun _ =>
          .bind grows_closed (fun _ => grows_of_eq rfl rfl) fun _ => .pure grows_closed _
      rw [hC.scope hm]
      exact (hC.simulates_note (.declared name m.scope)).andThen fun _ =>
        (hC.simulates_declare name).andThen fun _ => .pure rfl
  | .ifElse condition thenBranch elseBranch loc =>
    (hC.simulates_arrive (.ifElse condition thenBranch elseBranch loc)).andThen fun _ =>
      (hC.simulates_holds henter condition).andThen fun holds => by
        cases holds with
        | true => exact simulates_exec hC henter hbudget thenBranch
        | false => exact simulates_execElse hC henter hbudget elseBranch
  | .whileLoop condition body loc =>
    (hC.simulates_arrive (.whileLoop condition body loc)).andThen fun _ =>
      hC.simulates_rounds (hC.simulates_holds henter condition)
        (simulates_exec hC henter hbudget body) (.pure rfl) hbudget
  | .forLoop init condition step body loc =>
    (hC.simulates_arrive (.forLoop init condition step body loc)).andThen fun _ =>
      (simulates_exec hC henter hbudget init).andThen fun flow => by
        cases flow with
        | returned value => exact .pure rfl
        | normal =>
          exact hC.simulates_rounds (hC.simulates_goesOn henter condition)
            (simulates_exec hC henter hbudget body)
            ((hC.simulates_eval henter step).andThen fun _ => .pure rfl) hbudget
  | .block body loc =>
    (hC.simulates_arrive (.block body loc)).andThen fun _ =>
      hC.simulates_inScope (simulates_exec hC henter hbudget body)
  | .giveBack value loc =>
    (hC.simulates_arrive (.giveBack value loc)).andThen fun _ =>
      (hC.simulates_eval henter value).andThen fun _ => .pure rfl
  | .empty => hC.simulates_alone henter .empty
  | .literal value loc => hC.simulates_alone henter (.literal value loc)
  | .var ref => hC.simulates_alone henter (.var ref)
  | .call callee args loc => hC.simulates_alone henter (.call callee args loc)
  | .unary op operand loc => hC.simulates_alone henter (.unary op operand loc)
  | .binary op left right loc => hC.simulates_alone henter (.binary op left right loc)
  | .assignment target value loc => hC.simulates_alone henter (.assignment target value loc)
  | .input targets loc => hC.simulates_alone henter (.input targets loc)
  | .output items loc => hC.simulates_alone henter (.output items loc)
  | .endl loc => hC.simulates_alone henter (.endl loc)

/-- Statements run one after the other in both runs, until one returns in both. -/
theorem simulates_execAll (hC : C.Sound ctx ctx') (henter : C.EntersAlike enter enter')
    {budget budget' : Nat} (hbudget : C.Affords budget budget') : ∀ nodes,
    C.Simulates Eq (execAll ctx enter budget nodes)
      (execAll ctx' enter' budget' (relabelAll C.relabeling nodes))
  | [] => .pure rfl
  | node :: nodes =>
    (simulates_exec hC henter hbudget node).andThen fun flow => by
      cases flow with
      | normal => exact simulates_execAll hC henter hbudget nodes
      | returned value => exact .pure rfl

/-- A branch that is not there is there in neither tree. -/
theorem simulates_execElse (hC : C.Sound ctx ctx') (henter : C.EntersAlike enter enter')
    {budget budget' : Nat} (hbudget : C.Affords budget budget') : ∀ branch,
    C.Simulates Eq (execElse ctx enter budget branch)
      (execElse ctx' enter' budget' (relabelElse C.relabeling branch))
  | none => .pure rfl
  | some node => simulates_exec hC henter hbudget node

end

/-! ## Section 6: Calls -/

/-- Parameters are declared and written under their new names. -/
theorem simulates_bindParams (hC : C.Sound ctx ctx') : ∀ params values,
    C.Simulates Eq (bindParams params values) (bindParams (params.map C.relabeling.name) values)
  | param :: params, value :: values => by
    have hsave := hC.simulates_save param [] value
    rw [Slot.key_nil, Slot.key_nil] at hsave
    exact (hC.simulates_declare param).andThen fun _ => hsave.andThen fun _ =>
      simulates_bindParams hC params values
  | [], _ => .pure rfl
  | _ :: _, [] => .pure rfl

/-- Two calls are refused alike, or the first one alone is, and that is an escape. -/
theorem simulates_call (hC : C.Sound ctx ctx') {loc : Location} {x y : Machine → Exec Int32}
    (hxy : ∀ {m m'}, C.alike m m' → C.Simulates Eq (x m) (y m'))
    (hy : ∀ m, Obeys Grows (y m)) :
    C.Simulates Eq
      (do
        let m ← get
        if ctx.limits.maxDepth < m.callDepth then fail (.callDepth ctx.limits.maxDepth loc) else x m)
      (do
        let m ← get
        if ctx'.limits.maxDepth < m.callDepth then
          fail (.callDepth ctx'.limits.maxDepth (C.relabeling.place loc))
        else y m) := by
  have hgrows : ∀ m : Machine, Obeys Grows (if ctx'.limits.maxDepth < m.callDepth then
      fail (.callDepth ctx'.limits.maxDepth (C.relabeling.place loc)) else y m) := by
    intro m
    split
    · exact fun m => .refl m
    · exact hy m
  refine .get_bind (fun {m m'} hm => ?_) hgrows
  have hcallDepth := hC.callDepth hm
  by_cases hdeep : ctx.limits.maxDepth < m.callDepth
  · rw [if_pos hdeep]
    rcases hC.maxDepth with heq | ⟨-, hescapes⟩
    · rw [if_pos (by omega), heq]
      exact .fail rfl
    · exact hC.simulates_escape (hescapes loc) (hgrows m')
  · -- Where the lower limit admits the call, the higher one does.
    have hdeep' : ¬ ctx'.limits.maxDepth < m'.callDepth := by
      rcases hC.maxDepth with heq | ⟨hle, -⟩ <;> omega
    rw [if_neg hdeep, if_neg hdeep']
    exact hxy hm

theorem grows_activate (ctx : Context) (budget : Nat) (routine : Routine) (args : List Int32)
    (loc : Location) : Obeys Grows (activate ctx budget routine args loc) :=
  (growthDiscipline ctx).obeys_activate budget routine args loc

theorem grows_runBody (ctx : Context) (budget : Nat) (routine : Routine) (args : List Int32)
    (depth : Nat) : Obeys Grows (runBody ctx budget routine args depth) :=
  (growthDiscipline ctx).obeys_runBody ((growthDiscipline ctx).obeys_activate budget) routine args
    depth

/-- The body of a function respects a sound coupling, if the calls in it do. -/
theorem simulates_runBody (hC : C.Sound ctx ctx') {budget budget' : Nat}
    (hbudget : C.Affords budget budget')
    (henter : C.EntersAlike (activate ctx budget) (activate ctx' budget')) (routine : Routine)
    (args : List Int32) (depth : Nat) :
    C.Simulates Eq (runBody ctx budget routine args depth)
      (runBody ctx' budget' (routine.relabel C.relabeling) args depth) := by
  have hbody : C.Simulates Eq (do
      bindParams routine.params args
      exec ctx (activate ctx budget) budget routine.body) (do
      bindParams (routine.relabel C.relabeling).params args
      exec ctx' (activate ctx' budget') budget' (routine.relabel C.relabeling).body) :=
    (hC.simulates_bindParams routine.params args).andThen fun _ =>
      hC.simulates_exec henter hbudget routine.body
  exact (hC.simulates_note (.called routine.name args (depth + 1))).andThen fun _ =>
    (hC.simulates_inCall routine.name (hC.simulates_inScope hbody)).andThen fun _ => .pure rfl

/-- Entering a function respects a sound coupling, by induction on how deeply the first run may nest
calls. -/
theorem simulates_activate (hC : C.Sound ctx ctx') {budget budget' : Nat}
    (hbudget : C.Affords budget budget') :
    C.EntersAlike (activate ctx budget) (activate ctx' budget') := by
  induction budget generalizing budget' with
  | zero =>
    refine ⟨fun routine args loc => ?_, grows_activate ctx' budget'⟩
    cases budget' with
    | zero =>
      rw [activate_zero, activate_zero]
      exact hC.simulates_call (fun _ => hC.simulates_tick.andThen fun _ => simulates_throw)
        fun _ => .bind grows_closed (grows_tick ctx') fun _ m => .refl m
    | succ budget' =>
      -- The first run can nest no further call, and the second one goes on.
      obtain ⟨-, hescapes⟩ := hbudget.resolve_left (Nat.succ_ne_zero budget')
      rw [activate_zero, activate_succ]
      exact hC.simulates_call
        (fun _ => hC.simulates_tick.andThen fun _ =>
          hC.simulates_escape hescapes (grows_runBody ctx' budget' _ _ _))
        fun _ => .bind grows_closed (grows_tick ctx') fun _ => grows_runBody ctx' budget' _ _ _
  | succ budget ih =>
    obtain ⟨budget', rfl, hless⟩ := hbudget.exists_succ
    refine ⟨fun routine args loc => ?_, grows_activate ctx' (budget' + 1)⟩
    rw [activate_succ, activate_succ]
    refine hC.simulates_call (fun {m m'} hm => ?_)
      fun _ => .bind grows_closed (grows_tick ctx') fun _ => grows_runBody ctx' budget' _ _ _
    rw [hC.callDepth hm]
    exact hC.simulates_tick.andThen fun _ =>
      hC.simulates_runBody hless (ih hless) routine args m.callDepth

/-! ## Section 7: Runs -/

/-- The globals run one after the other in both runs. -/
theorem simulates_runGlobals (hC : C.Sound ctx ctx') {budget budget' : Nat}
    (hbudget : C.Affords budget budget') (nodes : List Node) :
    C.Simulates Eq (Runner.runGlobals ctx budget nodes)
      (Runner.runGlobals ctx' budget' (relabelAll C.relabeling nodes)) := by
  induction nodes with
  | nil => exact .pure rfl
  | cons node nodes ih =>
    exact (hC.simulates_exec (hC.simulates_activate hbudget) hbudget node).andThen fun _ => ih

/-- The main function has its name in both runs, and they end by the same last event. -/
theorem simulates_runMain (hC : C.Sound ctx ctx') {budget budget' : Nat}
    (hbudget : C.Affords budget budget') (main : Routine) :
    C.Simulates Eq (Runner.runMain ctx budget main)
      (Runner.runMain ctx' budget' (main.relabel C.relabeling)) := by
  have hbegun : C.Simulates Eq
      (modify fun m => { m with routine := mainName, loc := main.loc, callDepth := 1 } : Exec Unit)
      (modify fun m => { m with
        routine := mainName
        loc := (main.relabel C.relabeling).loc
        callDepth := 1 } : Exec Unit) :=
    ⟨fun hm => .ok rfl (hC.mainBegun main.loc hm), fun _ => grows_of_eq rfl rfl⟩
  have hended : C.Simulates Eq (do
      modify fun m => { m with callDepth := 0 }
      let m ← get
      note (.finished m.steps m.output.size) : Exec Unit) (do
      modify fun m => { m with callDepth := 0 }
      let m ← get
      note (.finished m.steps m.output.size) : Exec Unit) := by
    have hzero : C.Simulates Eq (modify fun m => { m with callDepth := 0 } : Exec Unit)
        (modify fun m => { m with callDepth := 0 } : Exec Unit) :=
      ⟨fun hm => .ok rfl (hC.mainEnded hm), fun _ => grows_of_eq rfl rfl⟩
    refine hzero.andThen fun _ => .get_bind (fun {m m'} hm => ?_) fun _ _ => grows_of_eq rfl rfl
    -- The last event tells the steps and the size of the output, which are the same in both runs.
    rw [hC.steps hm, hC.output hm]
    exact hC.simulates_note (.finished m.steps m.output.size)
  refine (hC.simulates_note .mainEntered).andThen fun _ => hbegun.andThen fun _ =>
    (hC.simulates_exec (hC.simulates_activate hbudget) hbudget main.body).andThen fun flow => ?_
  cases flow with
  | normal => exact hended
  | returned value => exact (hC.simulates_note (.mainReturned value)).andThen fun _ => hended

/-- Whole runs respect a sound coupling. -/
theorem simulates_whole (hC : C.Sound ctx ctx') {budget budget' : Nat}
    (hbudget : C.Affords budget budget')
    (hglobals : ctx'.program.globals = relabelAll C.relabeling ctx.program.globals)
    (main : Routine) :
    C.Simulates Eq (Runner.whole ctx budget main)
      (Runner.whole ctx' budget' (main.relabel C.relabeling)) := by
  unfold Runner.whole
  rw [hglobals]
  exact (hC.simulates_runGlobals hbudget _).andThen fun _ => hC.simulates_runMain hbudget main

end Sound

end Coupling
end Stepwise
