import Mathlib.Algebra.GroupWithZero.Nat
import Mathlib.Algebra.Order.BigOperators.Group.List
import Mathlib.Algebra.Order.Group.Nat
import Mathlib.Data.Set.Function
import Mathlib.Logic.Equiv.Basic
import Stepwise.Proofs.Comparison
import Stepwise.Proofs.RenamedStore

/-!
# Names do not matter

The variables of a program can be given other names, and so can its functions, except for the main one
and the one that prints a byte. If no two names fall together, then the program does what it did before.

New names need to be given for a program only, while the comparison of two runs asks for new names for
every text that there is. So the given names are completed first: every other text gets a name that is
too long to be one of them. How long is left open, and that is used: a fault tells the name of a function,
and if this were none of the program, then runs of one and the same program would tell different names.

## Main results

* `Node.relabel_congr`: a tree gets the same labels from new names that agree on its own.
* `Coupling.renamed_sound`: every primitive action respects other names.
* `Relabeling.Separates.isRenaming_completed`: new names for a program are part of new names for all.
* `names_do_not_matter`: what new names do to whole runs.
-/

namespace Stepwise

open Machine Exec

/-! ## Section 1: The names in a program -/

/-- A name in a program. -/
inductive Label where
  /-- Of a variable. -/
  | name (name : String)
  /-- Of a function. -/
  | routine (name : String)
deriving DecidableEq

namespace Label

/-- The name as a text. -/
def text : Label → String
  | name text | routine text => text

/-- The name that takes its place. -/
def relabel (σ : Relabeling) : Label → Label
  | name text => .name (σ.name text)
  | routine text => .routine (σ.routine text)

end Label

mutual

/-- The names in a tree: of what it declares, reads, writes and calls. -/
def Node.labels : Node → List Label
  | .sequence statements => labelsAll statements
  | .empty => []
  | .literal _ _ => []
  | .var ref => labelsRef ref
  | .call callee args _ => .routine callee :: labelsAll args
  | .unary _ operand _ => operand.labels
  | .binary _ left right _ => left.labels ++ right.labels
  | .assignment target value _ => labelsRef target ++ value.labels
  | .input targets _ => labelsRefs targets
  | .output items _ => labelsAll items
  | .endl _ => []
  | .declaration name _ => [.name name]
  | .ifElse condition thenBranch elseBranch _ =>
    condition.labels ++ thenBranch.labels ++ labelsElse elseBranch
  | .whileLoop condition body _ => condition.labels ++ body.labels
  | .forLoop init condition step body _ =>
    init.labels ++ condition.labels ++ step.labels ++ body.labels
  | .giveBack value _ => value.labels
  | .block body _ => body.labels

/-- The names in each tree of a list. -/
def labelsAll : List Node → List Label
  | [] => []
  | node :: nodes => node.labels ++ labelsAll nodes

/-- The name of a variable and the names in its indices. -/
def labelsRef : Reference Node → List Label
  | ⟨name, indices, _⟩ => .name name :: labelsAll indices

/-- The names of each variable of a list. -/
def labelsRefs : List (Reference Node) → List Label
  | [] => []
  | ref :: refs => labelsRef ref ++ labelsRefs refs

/-- The names in the other branch, if there is one. -/
def labelsElse : Option Node → List Label
  | none => []
  | some node => node.labels

end

/-- The names in a function: its own, those of its parameters and those in its body. -/
def Routine.labels (routine : Routine) : List Label :=
  .routine routine.name :: routine.params.map .name ++ routine.body.labels

/-- The names in a program. -/
def Program.labels (program : Program) : List Label :=
  program.routines.flatMap Routine.labels ++ labelsAll program.globals

section Congruence

variable {σ τ : Relabeling}

/-- Two relabelings agree on these names, and on all places. -/
structure Relabeling.AgreeOn (σ τ : Relabeling) (labels : List Label) : Prop where
  label : ∀ l ∈ labels, l.relabel σ = l.relabel τ
  place (loc : Location) : σ.place loc = τ.place loc

theorem Relabeling.AgreeOn.mono {labels labels' : List Label} (h : σ.AgreeOn τ labels)
    (hsub : labels' ⊆ labels) : σ.AgreeOn τ labels' :=
  ⟨fun l hl => h.label l (hsub hl), h.place⟩

theorem agreeOn_append {labels labels' : List Label} :
    σ.AgreeOn τ (labels ++ labels') ↔ σ.AgreeOn τ labels ∧ σ.AgreeOn τ labels' := by
  refine ⟨fun h => ⟨?_, ?_⟩, fun ⟨h, h'⟩ => ⟨?_, h.place⟩⟩
  · exact h.mono (List.subset_append_left _ _)
  · exact h.mono (List.subset_append_right _ _)
  · exact List.forall_mem_append.mpr ⟨h.label, h'.label⟩

theorem agreeOn_name {name : String} {labels : List Label} :
    σ.AgreeOn τ (.name name :: labels) ↔ σ.name name = τ.name name ∧ σ.AgreeOn τ labels := by
  refine ⟨fun h => ⟨?_, h.mono (List.subset_cons_self _ _)⟩, fun ⟨hname, h⟩ => ⟨?_, h.place⟩⟩
  · exact Label.name.inj (h.label _ List.mem_cons_self)
  · exact List.forall_mem_cons.mpr ⟨congrArg Label.name hname, h.label⟩

theorem agreeOn_routine {name : String} {labels : List Label} :
    σ.AgreeOn τ (.routine name :: labels) ↔
      σ.routine name = τ.routine name ∧ σ.AgreeOn τ labels := by
  refine ⟨fun h => ⟨?_, h.mono (List.subset_cons_self _ _)⟩, fun ⟨hname, h⟩ => ⟨?_, h.place⟩⟩
  · exact Label.routine.inj (h.label _ List.mem_cons_self)
  · exact List.forall_mem_cons.mpr ⟨congrArg Label.routine hname, h.label⟩

mutual

/-- Relabelings that agree on the names in a tree relabel it alike. -/
theorem Node.relabel_congr : ∀ node : Node, σ.AgreeOn τ node.labels → node.relabel σ = node.relabel τ
  | .sequence statements, h => by
    simp only [Node.relabel, relabelAll_congr statements h]
  | .empty, _ => rfl
  | .literal _ _, h => by simp only [Node.relabel, h.place]
  | .var ref, h => by simp only [Node.relabel, relabelRef_congr ref h]
  | .call _ args _, h => by
    obtain ⟨hcallee, hargs⟩ := agreeOn_routine.mp h
    simp only [Node.relabel, hcallee, relabelAll_congr args hargs, h.place]
  | .unary _ operand _, h => by simp only [Node.relabel, Node.relabel_congr operand h, h.place]
  | .binary _ left right _, h => by
    obtain ⟨hleft, hright⟩ := agreeOn_append.mp h
    simp only [Node.relabel, Node.relabel_congr left hleft, Node.relabel_congr right hright, h.place]
  | .assignment target value _, h => by
    obtain ⟨htarget, hvalue⟩ := agreeOn_append.mp h
    simp only [Node.relabel, relabelRef_congr target htarget, Node.relabel_congr value hvalue, h.place]
  | .input targets _, h => by simp only [Node.relabel, relabelRefs_congr targets h, h.place]
  | .output items _, h => by simp only [Node.relabel, relabelAll_congr items h, h.place]
  | .endl _, h => by simp only [Node.relabel, h.place]
  | .declaration name _, h => by simp only [Node.relabel, (agreeOn_name.mp h).1, h.place]
  | .ifElse condition thenBranch elseBranch _, h => by
    obtain ⟨hboth, helse⟩ := agreeOn_append.mp h
    obtain ⟨hcondition, hthen⟩ := agreeOn_append.mp hboth
    simp only [Node.relabel, Node.relabel_congr condition hcondition,
      Node.relabel_congr thenBranch hthen, relabelElse_congr elseBranch helse, h.place]
  | .whileLoop condition body _, h => by
    obtain ⟨hcondition, hbody⟩ := agreeOn_append.mp h
    simp only [Node.relabel, Node.relabel_congr condition hcondition, Node.relabel_congr body hbody,
      h.place]
  | .forLoop init condition step body _, h => by
    obtain ⟨hheader, hbody⟩ := agreeOn_append.mp h
    obtain ⟨hstart, hstep⟩ := agreeOn_append.mp hheader
    obtain ⟨hinit, hcondition⟩ := agreeOn_append.mp hstart
    simp only [Node.relabel, Node.relabel_congr init hinit, Node.relabel_congr condition hcondition,
      Node.relabel_congr step hstep, Node.relabel_congr body hbody, h.place]
  | .giveBack value _, h => by simp only [Node.relabel, Node.relabel_congr value h, h.place]
  | .block body _, h => by simp only [Node.relabel, Node.relabel_congr body h, h.place]

theorem relabelAll_congr : ∀ nodes : List Node, σ.AgreeOn τ (labelsAll nodes) →
    relabelAll σ nodes = relabelAll τ nodes
  | [], _ => rfl
  | node :: nodes, h => by
    obtain ⟨hnode, hnodes⟩ := agreeOn_append.mp h
    simp only [relabelAll, Node.relabel_congr node hnode, relabelAll_congr nodes hnodes]

theorem relabelRef_congr : ∀ ref : Reference Node, σ.AgreeOn τ (labelsRef ref) →
    relabelRef σ ref = relabelRef τ ref
  | ⟨_, indices, _⟩, h => by
    obtain ⟨hname, hindices⟩ := agreeOn_name.mp h
    simp only [relabelRef, hname, relabelAll_congr indices hindices, h.place]

theorem relabelRefs_congr : ∀ refs : List (Reference Node), σ.AgreeOn τ (labelsRefs refs) →
    relabelRefs σ refs = relabelRefs τ refs
  | [], _ => rfl
  | ref :: refs, h => by
    obtain ⟨href, hrefs⟩ := agreeOn_append.mp h
    simp only [relabelRefs, relabelRef_congr ref href, relabelRefs_congr refs hrefs]

theorem relabelElse_congr : ∀ branch : Option Node, σ.AgreeOn τ (labelsElse branch) →
    relabelElse σ branch = relabelElse τ branch
  | none, _ => rfl
  | some node, h => by simp only [relabelElse, Node.relabel_congr node h]

end

theorem Routine.relabel_congr {routine : Routine} (h : σ.AgreeOn τ routine.labels) :
    routine.relabel σ = routine.relabel τ := by
  obtain ⟨hname, hrest⟩ := agreeOn_routine.mp h
  obtain ⟨hparams, hbody⟩ := agreeOn_append.mp hrest
  have hmap : routine.params.map σ.name = routine.params.map τ.name :=
    List.map_congr_left fun param hparam =>
      Label.name.inj (hparams.label _ (List.mem_map_of_mem hparam))
  simp only [Routine.relabel, hname, hmap, routine.body.relabel_congr hbody, h.place]

theorem Program.relabel_congr {program : Program} (h : σ.AgreeOn τ program.labels) :
    program.relabel σ = program.relabel τ := by
  obtain ⟨hroutines, hglobals⟩ := agreeOn_append.mp h
  have hmap : program.routines.map (Routine.relabel σ) = program.routines.map (Routine.relabel τ) :=
    List.map_congr_left fun routine hmem =>
      routine.relabel_congr (hroutines.mono fun _ hl => List.mem_flatMap_of_mem hmem hl)
  simp only [Program.relabel, hmap, relabelAll_congr program.globals hglobals]

end Congruence

/-! ## Section 2: Runs under other names -/

/-- Other names for everything. -/
structure Relabeling.IsRenaming (σ : Relabeling) : Prop where
  name : Slot.IsRenaming σ.name
  routine : Function.Injective σ.routine
  main : σ.routine mainName = mainName
  putchar : σ.routine putchar = putchar
  place (loc : Location) : σ.place loc = loc

/-- The same machine under other names, without a trace. What it says about itself, which is the
function that is running and the events, is left aside. -/
structure Machine.Renamed (f : String → String) (m m' : Machine) : Prop where
  store : m.store.Renamed f m'.store
  scope : m'.scope = m.scope
  pool : m'.pool = m.pool
  output : m'.output = m.output
  steps : m'.steps = m.steps
  callDepth : m'.callDepth = m.callDepth
  loc : m'.loc = m.loc
  history : m.history = none
  history' : m'.history = none

/-- The coupling of a run and the run under other names. Neither of them goes on without the other. -/
def Coupling.renamed (σ : Relabeling) : Coupling :=
  ⟨σ, Machine.Renamed σ.name, fun _ => False⟩

variable {σ : Relabeling}

/-- A function is found under its new name. -/
theorem Program.find?_relabel (h : Function.Injective σ.routine) (program : Program) (name : String) :
    (program.relabel σ).find? (σ.routine name) = (program.find? name).map (Routine.relabel σ) := by
  have hsame : ((fun r : Routine => r.name == σ.routine name) ∘ Routine.relabel σ) =
      fun r => r.name == name := by
    funext r
    simp [Routine.relabel, h.eq_iff]
  unfold Program.find? Program.relabel
  rw [List.find?_map, hsame]

/-- Every primitive action respects other names. -/
theorem Coupling.renamed_sound (hσ : σ.IsRenaming) (program : Program) (limits : Limits) :
    (renamed σ).Sound ⟨program, limits⟩ ⟨program.relabel σ, limits⟩ where
  output h := h.output
  steps h := h.steps
  scope h := h.scope
  depth h := h.store.depth
  callDepth h := h.callDepth
  loc h := h.loc.trans (hσ.place _).symm
  -- A variable under its new name has its old key, renamed.
  load name indices _ _ h := by
    show Store.get _ _ (Slot.key (σ.name name) indices) = _
    rw [h.scope, ← hσ.name.apply_key, h.store.get hσ.name]
  putchar _ := ⟨fun h => hσ.routine (h.trans hσ.putchar.symm), fun h => h ▸ hσ.putchar⟩
  known h := (program.find?_relabel hσ.routine _).trans (congrArg (Option.map _) h)
  unknown h := .inl ((program.find?_relabel hσ.routine _).trans (congrArg (Option.map _) h))
  maxDepth := .inl rfl
  tick h := .tick rfl h.steps (h.loc.trans (hσ.place _).symm)
    { h with steps := congrArg (· + 1) h.steps }
  record label m m' h := by
    -- Neither run has a trace that a record could be added to.
    unfold record
    rw [h.history, h.history']
    exact .ok rfl h
  next loc _ _ h := .next loc h.pool h fun _ => { h with pool := rfl }
  place loc _ _ h := { h with loc := hσ.place loc }
  noted _ _ _ h := { h with }
  save name indices value _ _ h := by
    refine { h with store := ?_ }
    show Store.Renamed _ _ (Store.set _ _ (Slot.key (σ.name name) indices) value)
    rw [h.scope, ← hσ.name.apply_key]
    exact h.store.set hσ.name _ _ value
  declare name _ _ h := by
    refine { h with store := ?_ }
    dsimp only
    rw [h.scope]
    exact h.store.declare hσ.name _ name
  print put _ _ h := { h with output := congrArg put h.output }
  opened h := by
    refine { h with store := ?_, scope := h.store.depth }
    dsimp only [Machine.opened]
    rw [h.scope]
    exact h.store.push _
  closed h h' := { h' with store := h'.store.pop, scope := h.scope }
  called _ _ _ h := { h with callDepth := congrArg (· + 1) h.callDepth }
  returned _ h' := { h' with callDepth := congrArg (· - 1) h'.callDepth }
  mainBegun loc _ _ h := { h with loc := hσ.place loc, callDepth := rfl }
  mainEnded h := { h with callDepth := rfl }

/-- A run and the run under other names end alike. -/
theorem Runner.runWithin_renamed (hσ : σ.IsRenaming) (program : Program) (inputs : List Int32)
    (maxSteps : Option Nat) (depth : Nat) (logged : Bool) (budget : Nat) :
    let run := (ofProgram program inputs ⟨maxSteps, depth, none⟩ logged).runWithin budget
    let run' := (ofProgram (program.relabel σ) inputs ⟨maxSteps, depth, none⟩ logged).runWithin budget
    run'.1 = run.1.mapError (Halt.relabel σ) ∧ run.2.machine.Renamed σ.name run'.2.machine := by
  intro run run'
  have hC : (Coupling.renamed σ).Sound
      (ofProgram program inputs ⟨maxSteps, depth, none⟩ logged).context
      (ofProgram (program.relabel σ) inputs ⟨maxSteps, depth, none⟩ logged).context :=
    Coupling.renamed_sound hσ program ⟨maxSteps, depth, none⟩
  have hm : (Coupling.renamed σ).alike
      (ofProgram program inputs ⟨maxSteps, depth, none⟩ logged).machine
      (ofProgram (program.relabel σ) inputs ⟨maxSteps, depth, none⟩ logged).machine :=
    ⟨.empty, rfl, rfl, rfl, rfl, rfl, rfl, rfl, rfl⟩
  have hmains : (program.relabel σ).find? mainName =
      (program.find? mainName).map (Routine.relabel σ) := by
    have hmain := program.find?_relabel hσ.routine mainName
    rwa [hσ.main] at hmain
  rcases hC.runWithin rfl hmains hm budget with hsame | ⟨_, _, hescape, _⟩
  · exact hsame
  · exact hescape.elim

/-! ## Section 3: Names for all texts -/

/-- New names for all texts: the given ones for those of a set, and long ones for all others. -/
def spread (g : String → String) (s : Set String) [DecidablePred (· ∈ s)] (width : Nat)
    (name : String) : String :=
  if name ∈ s then g name else String.ofList (List.replicate width '_') ++ name

section Spread

variable {g : String → String} {s : Set String} [DecidablePred (· ∈ s)] {width : Nat} {name : String}

theorem spread_of_mem (h : name ∈ s) : spread g s width name = g name :=
  if_pos h

theorem length_le_length_spread (h : name ∉ s) : width ≤ (spread g s width name).length := by
  rw [spread, if_neg h, String.length_append, String.length_ofList, List.length_replicate]
  exact Nat.le_add_right _ _

/-- The new names stay apart, if the given ones do and are not too long. -/
theorem spread_injective (hinj : Set.InjOn g s) (hwidth : ∀ x ∈ s, (g x).length < width) :
    Function.Injective (spread g s width) := by
  -- A given name is too short to be one of the others.
  have hlong : ∀ {x y}, x ∈ s → y ∉ s → spread g s width x ≠ spread g s width y := by
    intro x y hx hy h
    have hle : width ≤ (spread g s width y).length := length_le_length_spread hy
    rw [← h, spread_of_mem hx] at hle
    exact absurd (hwidth x hx) (Nat.not_lt.mpr hle)
  intro x y h
  by_cases hx : x ∈ s
  · by_cases hy : y ∈ s
    · rw [spread_of_mem hx, spread_of_mem hy] at h
      exact hinj hx hy h
    · exact absurd h (hlong hx hy)
  · by_cases hy : y ∈ s
    · exact absurd h.symm (hlong hy hx)
    · rw [spread, spread, if_neg hx, if_neg hy] at h
      exact (String.append_right_inj _).mp h

/-- A name that does not get longer is one of the given ones. -/
theorem mem_of_spread_eq (h : spread g s width name = spread g s (width + 1) name) : name ∈ s := by
  by_contra hname
  rw [spread, spread, if_neg hname, if_neg hname, String.append_left_inj] at h
  have hlength := congrArg String.length h
  simp at hlength

theorem isPlain_spread (hg : ∀ x ∈ s, Slot.IsPlain (g x)) (h : Slot.IsPlain name) :
    Slot.IsPlain (spread g s width name) := by
  unfold spread
  split
  · exact hg name ‹_›
  · refine Slot.isPlain_append ?_ h
    simp [Slot.IsPlain]

end Spread

/-- The names of the variables among these labels. -/
def Label.variables (labels : Set Label) : Set String :=
  {x | .name x ∈ labels}

/-- The names of the functions among these labels. -/
def Label.routines (labels : Set Label) : Set String :=
  {x | .routine x ∈ labels}

namespace Relabeling

/-- New names that keep these labels apart: no two variables and no two functions get one name, the
variables have no brackets in their names before or after, and the main function and the one that prints
a byte keep theirs. Places stay as they are. -/
structure Separates (σ : Relabeling) (labels : Set Label) : Prop where
  plain : ∀ x ∈ Label.variables labels, Slot.IsPlain x
  plain_name : ∀ x ∈ Label.variables labels, Slot.IsPlain (σ.name x)
  name_injOn : Set.InjOn σ.name (Label.variables labels)
  routine_injOn : Set.InjOn σ.routine (Label.routines labels)
  main_mem : mainName ∈ Label.routines labels
  main : σ.routine mainName = mainName
  putchar_mem : putchar ∈ Label.routines labels
  putchar : σ.routine putchar = putchar
  place (loc : Location) : σ.place loc = loc

theorem Separates.mono {labels labels' : Set Label} (h : σ.Separates labels) (hsub : labels' ⊆ labels)
    (hmain : .routine mainName ∈ labels') (hputchar : .routine Machine.putchar ∈ labels') :
    σ.Separates labels' where
  plain x hx := h.plain x (hsub hx)
  plain_name x hx := h.plain_name x (hsub hx)
  name_injOn _ hx _ hy := h.name_injOn (hsub hx) (hsub hy)
  routine_injOn _ hx _ hy := h.routine_injOn (hsub hx) (hsub hy)
  main_mem := hmain
  main := h.main
  putchar_mem := hputchar
  putchar := h.putchar
  place := h.place

variable {labels : List Label}

instance : DecidablePred (· ∈ Label.variables {l | l ∈ labels}) :=
  fun x => inferInstanceAs (Decidable (Label.name x ∈ labels))

instance : DecidablePred (· ∈ Label.routines {l | l ∈ labels}) :=
  fun x => inferInstanceAs (Decidable (Label.routine x ∈ labels))

/-- More than the length of every name that these labels get. -/
def reach (σ : Relabeling) (labels : List Label) : Nat :=
  (labels.map fun l => (l.relabel σ).text.length).sum + 1

theorem length_lt_reach {l : Label} (h : l ∈ labels) :
    (l.relabel σ).text.length < σ.reach labels := by
  apply Nat.lt_succ_of_le
  apply List.le_sum_of_mem
  exact List.mem_map_of_mem (f := fun l => (l.relabel σ).text.length) h

/-- The given names for these labels, and long ones for all others. -/
def completed (σ : Relabeling) (labels : List Label) (extra : Nat) : Relabeling :=
  ⟨Slot.rename (spread σ.name (Label.variables {l | l ∈ labels}) (σ.reach labels)),
    spread σ.routine (Label.routines {l | l ∈ labels}) (σ.reach labels + extra), σ.place⟩

theorem Separates.name_completed (h : σ.Separates {l | l ∈ labels}) (extra : Nat) {x : String}
    (hx : x ∈ Label.variables {l | l ∈ labels}) : (σ.completed labels extra).name x = σ.name x :=
  (Slot.rename_of_isPlain (h.plain x hx)).trans (spread_of_mem hx)

/-- Completed names are other names for everything. -/
theorem Separates.isRenaming_completed (h : σ.Separates {l | l ∈ labels}) (extra : Nat) :
    (σ.completed labels extra).IsRenaming where
  name := by
    apply Slot.isRenaming_rename
    · intro name hname
      exact isPlain_spread h.plain_name hname
    · intro name name' _ _ heq
      exact spread_injective h.name_injOn (fun x hx => length_lt_reach (l := .name x) hx) heq
  routine := spread_injective h.routine_injOn fun x hx =>
    Nat.lt_add_right extra (length_lt_reach (l := .routine x) hx)
  main := (spread_of_mem h.main_mem).trans h.main
  putchar := (spread_of_mem h.putchar_mem).trans h.putchar
  place := h.place

theorem Separates.agreeOn_completed (h : σ.Separates {l | l ∈ labels}) (extra : Nat) :
    (σ.completed labels extra).AgreeOn σ labels := by
  refine ⟨fun l hl => ?_, fun _ => rfl⟩
  cases l with
  | name x => exact congrArg Label.name (h.name_completed extra hl)
  | routine x => exact congrArg Label.routine (spread_of_mem hl)

/-- A function whose name two completions give alike is one of the labels. -/
theorem routine_completed {x : String}
    (h : (σ.completed labels 0).routine x = (σ.completed labels 1).routine x) :
    (σ.completed labels 0).routine x = σ.routine x :=
  spread_of_mem (mem_of_spread_eq h)

/-- A halt that two completions tell alike is told with the given names. -/
theorem halt_completed {halt : Halt}
    (h : halt.relabel (σ.completed labels 0) = halt.relabel (σ.completed labels 1)) :
    halt.relabel (σ.completed labels 0) = halt.relabel σ := by
  cases halt with
  | outOfBudget => rfl
  | fault cause =>
    have hcause := Halt.fault.inj h
    apply congrArg Halt.fault
    cases cause with
    | undefinedRoutine name loc =>
      have hname := (Fault.undefinedRoutine.inj hcause).1
      exact congrArg (Fault.undefinedRoutine · _) (routine_completed hname)
    | argumentCount name expected found loc =>
      have hname := (Fault.argumentCount.inj hcause).1
      exact congrArg (Fault.argumentCount · expected found _) (routine_completed hname)
    | _ => rfl

end Relabeling

/-! ## Section 4: Whole runs -/

/-- What one sees of a run, up to the names of variables and functions: its outcome, its output and
steps, how many integers it has read, and the values at the root. -/
structure Runner.SameUpToNames (σ : Relabeling) (labels : Set Label)
    (run run' : Except Halt Unit × Runner) : Prop where
  outcome : run'.1 = run.1.mapError (Halt.relabel σ)
  output : run'.2.machine.output = run.2.machine.output
  steps : run'.2.machine.steps = run.2.machine.steps
  consumed : run'.2.machine.pool.consumed = run.2.machine.pool.consumed
  globals (key : String) : Slot.base key ∈ Label.variables labels →
    run'.2.global (Slot.rename σ.name key) = run.2.global key

/-- This is so for new names of finitely many labels, among which are those of the program. -/
theorem Runner.sameUpToNames_of_subset {program : Program} {labels : List Label}
    (hlabels : program.labels ⊆ labels) (h : σ.Separates {l | l ∈ labels}) (inputs : List Int32)
    (maxSteps : Option Nat) (depth : Nat) (logged : Bool) (budget : Nat) :
    SameUpToNames σ {l | l ∈ labels}
      ((ofProgram program inputs ⟨maxSteps, depth, none⟩ logged).runWithin budget)
      ((ofProgram (program.relabel σ) inputs ⟨maxSteps, depth, none⟩ logged).runWithin budget) := by
  -- All completions give the program the same names.
  have hprogram : ∀ extra, program.relabel (σ.completed labels extra) = program.relabel σ :=
    fun extra => Program.relabel_congr ((h.agreeOn_completed extra).mono hlabels)
  have hrun := fun extra => runWithin_renamed (h.isRenaming_completed extra) program inputs
    maxSteps depth logged budget
  simp only [hprogram] at hrun
  obtain ⟨houtcome, hm⟩ := hrun 0
  refine ⟨?_, hm.output, hm.steps, congrArg Pool.consumed hm.pool, fun key hkey => ?_⟩
  · -- It is one run that two completions tell about, and so they tell the same outcome.
    have houtcomes := houtcome.symm.trans (hrun 1).1
    rw [houtcome]
    generalize ((ofProgram program inputs ⟨maxSteps, depth, none⟩ logged).runWithin budget).1 = outcome
      at houtcomes
    cases outcome with
    | ok _ => rfl
    | error halt => exact congrArg Except.error (Relabeling.halt_completed (Except.error.inj houtcomes))
  · have hrename : Slot.rename σ.name key = (σ.completed labels 0).name key :=
      congrArg (· ++ Slot.indexing key) (spread_of_mem hkey).symm
    rw [hrename]
    exact hm.store.get (h.isRenaming_completed 0).name 0 key

/-- Names do not matter. Take a program and new names for some labels, those of the program among them,
that keep these labels apart. Then the program under its new names, without a trace and within any budget,
has the same outcome up to the names of functions; it prints the same, counts the same steps, and reads as
many integers; and at the root every slot of a variable that has got a new name holds what it held
before. -/
theorem names_do_not_matter {program : Program} {σ : Relabeling} {labels : Set Label}
    (hlabels : ∀ l ∈ program.labels, l ∈ labels) (h : σ.Separates labels) (inputs : List Int32)
    (maxSteps : Option Nat) (depth : Nat) (logged : Bool) (budget : Nat) :
    Runner.SameUpToNames σ labels
      ((Runner.ofProgram program inputs ⟨maxSteps, depth, none⟩ logged).runWithin budget)
      ((Runner.ofProgram (program.relabel σ) inputs ⟨maxSteps, depth, none⟩ logged).runWithin
        budget) := by
  -- One more variable can always be taken in, so that no key is left out.
  have hfinite : ∀ more : List Label, (∀ l ∈ more, l ∈ labels) →
      Runner.SameUpToNames σ {l | l ∈ more ++ .routine mainName :: .routine putchar :: program.labels}
        ((Runner.ofProgram program inputs ⟨maxSteps, depth, none⟩ logged).runWithin budget)
        ((Runner.ofProgram (program.relabel σ) inputs ⟨maxSteps, depth, none⟩ logged).runWithin
          budget) := by
    intro more hmore
    refine Runner.sameUpToNames_of_subset ?_ (h.mono ?_ ?_ ?_) inputs maxSteps depth logged budget
    · intro l hl
      simp [hl]
    · intro l hl
      simp only [Set.mem_ofPred_eq, List.mem_append, List.mem_cons] at hl
      rcases hl with hl | rfl | rfl | hl
      · exact hmore l hl
      · exact h.main_mem
      · exact h.putchar_mem
      · exact hlabels l hl
    · simp
    · simp
  have hrun := hfinite [] (by simp)
  refine ⟨hrun.outcome, hrun.output, hrun.steps, hrun.consumed, fun key hkey => ?_⟩
  have hmore : ∀ l ∈ [Label.name (Slot.base key)], l ∈ labels :=
    List.forall_mem_singleton.mpr hkey
  exact (hfinite _ hmore).globals key List.mem_cons_self

/-- A program that writes into an array, prints what it has written, and calls a function that is not
there. -/
def writesAndFails : Program :=
  let n : Node := .var (.plain "n" .start)
  let slot : Reference Node := ⟨"a", [n], .start⟩
  let next : Node := .assignment slot (.binary .add n (.literal 1 .start) .start) .start
  ⟨[⟨"inc", ["n"], .giveBack next .start, .start⟩,
    ⟨mainName, [], .output [.call "inc" [.literal 4 .start] .start, .call "dec" [] .start] .start,
      .start⟩], [.declaration "a" .start]⟩

/-- Two variables and two functions change their names with each other. -/
def swapped : Relabeling :=
  ⟨Equiv.swap "a" "n", Equiv.swap "inc" "dec", fun loc => loc⟩

theorem swapped_separates : swapped.Separates {l | Slot.IsPlain l.text} where
  plain x hx := hx
  plain_name x hx := by
    show Slot.IsPlain (Equiv.swap "a" "n" x)
    rw [Equiv.swap_apply_def]
    split_ifs
    · decide
    · decide
    · exact hx
  name_injOn := (Equiv.swap "a" "n").injective.injOn
  routine_injOn := (Equiv.swap "inc" "dec").injective.injOn
  main_mem := (by decide : Slot.IsPlain mainName)
  main := by decide
  putchar_mem := (by decide : Slot.IsPlain putchar)
  putchar := by decide
  place _ := rfl

/-- The array has the name of the parameter now and the parameter that of the array, and the function
that is not there is called `inc`. What was printed before that is the same. -/
theorem names_do_not_matter_writesAndFails :
    ((Runner.ofProgram (writesAndFails.relabel swapped) [] ⟨none, 5, none⟩ false).runWithin 3).1 =
        .error (.fault (.undefinedRoutine "inc" .start)) ∧
      ((Runner.ofProgram (writesAndFails.relabel swapped) [] ⟨none, 5, none⟩ false).runWithin
        3).2.machine.output =
        ((Runner.ofProgram writesAndFails [] ⟨none, 5, none⟩ false).runWithin 3).2.machine.output ∧
      ((Runner.ofProgram (writesAndFails.relabel swapped) [] ⟨none, 5, none⟩ false).runWithin
        3).2.global "n[4]" = 5 := by
  have hlabels : ∀ l ∈ writesAndFails.labels, Slot.IsPlain l.text := by decide
  have hsame := names_do_not_matter hlabels swapped_separates [] none 5 false 3
  have houtcome : ((Runner.ofProgram writesAndFails [] ⟨none, 5, none⟩ false).runWithin 3).1 =
    .error (.fault (.undefinedRoutine "dec" .start)) := rfl
  have hvalue : ((Runner.ofProgram writesAndFails [] ⟨none, 5, none⟩ false).runWithin
    3).2.global "a[4]" = 5 := rfl
  refine ⟨?_, hsame.output, ?_⟩
  · rw [hsame.outcome, houtcome]
    rfl
  · have hkey : Slot.rename swapped.name "a[4]" = "n[4]" := by decide
    rw [← hkey, hsame.globals "a[4]" (Slot.isPlain_base _), hvalue]

end Stepwise
