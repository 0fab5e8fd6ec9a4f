import Stepwise.Proofs.Comparison
import Stepwise.Proofs.Course

/-!
# The integers that a run reads

A run reads the integers that it is given from the first one on, each of them once, and it does not
look ahead. The first half of this is about one run: at every point of it, what has been read into
variables and what is left in the pool make up the input. The second half compares a run with the run
on a longer input: they are the same up to the point where the first one finds nothing left to read.
This is the one escape of the coupling.

## Main results

* `Runner.Delivers.split`: what has been delivered and what is left.
* `Runner.Visits.delivers`: every point of a run is reached by delivering some of the input.
* `lengthening_sound`: every primitive action respects a longer pool.
* `input_is_read_in_order`: all of this for whole runs.
-/

namespace Stepwise

open Machine Exec

/-! ## Section 1: What has been delivered -/

namespace Runner

/-- On the way of a run to a machine these integers have been read into variables, in this order. -/
inductive Delivers (r : Runner) (budget : Nat) : List Int32 → Machine → Prop where
  | start : Delivers r budget [] r.machine
  | quiet {values : List Int32} {m m' : Machine} (h : Delivers r budget values m)
      (hquiet : m.Quiet m') : Delivers r budget values m'
  | arrived {values : List Int32} {b : Nat} {node : Node} {m : Machine}
      (h : Delivers r budget values m) (ha : r.Visits budget ⟨b, .statement node, m⟩) :
      Delivers r budget values (final (arrive r.context node m))
  /-- The run is at a variable that is to be read into, it has the key of it, and the next integer goes
  there. -/
  | read {values : List Int32} {b : Nat} {loc : Location} {target : Reference Node}
      {targets : List (Reference Node)} {key : String} {value : Int32} {m₀ m m₁ m₂ : Machine}
      (h : Delivers r budget values m)
      (ha : r.Visits budget ⟨b, .input loc (target :: targets), m₀⟩)
      (hslot : slot r.context (activate r.context b) target m₀ = .ok key m)
      (hnext : next loc m = .ok value m₁) (hsave : save key value m₁ = .ok () m₂) :
      Delivers r budget (values ++ [value]) m₂

/-- Arriving at a statement takes nothing off the pool. -/
theorem pool_arrive (ctx : Context) (node : Node) (m : Machine) :
    (final (arrive ctx node m)).pool = m.pool := by
  rw [arrive_eq]
  refine final_bind (P := fun m₁ => m₁.pool = m.pool) ?_ fun _ m₁ _ hm₁ => ?_
  · rw [final_tick]
  · rw [← hm₁]
    unfold record
    split
    · rfl
    · dsimp only
      split <;> rfl

/-- What has been delivered and what is left make up what there was. -/
theorem Delivers.split {r : Runner} {budget : Nat} {values : List Int32} {m : Machine}
    (h : r.Delivers budget values m) :
    values ++ m.pool.rest = r.machine.pool.rest ∧
      m.pool.consumed = r.machine.pool.consumed + values.length := by
  induction h with
  | start => exact ⟨rfl, rfl⟩
  | quiet _ hquiet ih =>
    rw [hquiet.pool]
    exact ih
  | arrived _ _ ih =>
    rw [pool_arrive]
    exact ih
  | @read values b loc target targets key value m₀ m m₁ m₂ _ ha hslot hnext hsave ih =>
    obtain ⟨hvalues, hconsumed⟩ := ih
    rcases next_cases loc m with ⟨-, hnone⟩ | ⟨value', rest, hrest, hsome⟩
    · -- There was an integer, since one has been delivered.
      cases hnext.symm.trans hnone
    · -- It is the first one that was left, and now it is the last one delivered.
      cases hnext.symm.trans hsome
      cases hsave
      rw [hrest] at hvalues
      refine ⟨?_, ?_⟩
      · rw [← hvalues, List.append_assoc]
        rfl
      · rw [List.length_append, ← Nat.add_assoc, ← hconsumed]
        rfl

/-- Every action of a run delivers something or nothing. -/
theorem keeps_delivers (r : Runner) (budget : Nat) :
    Keeps r.context (r.Visits budget) fun m => ∃ values, r.Delivers budget values m where
  begins ha hc := ha.begins hc
  quiet hm h := hm.imp fun _ hm => hm.quiet h
  marks := by
    intro a m m' ha hm h
    obtain ⟨values, hm⟩ := hm
    cases h with
    | arrive => exact ⟨values, hm.arrived ha⟩
    | @deliver b loc target targets key m₀ _ hslot =>
      rcases deliver_cases loc key m with ⟨halt, hread⟩ | ⟨value, rest, hnext, hread⟩ <;> rw [hread]
      · exact ⟨values, hm⟩
      · exact ⟨values ++ [value], hm.read ha hslot hnext rfl⟩

/-- Every point of a run is reached by delivering some of the input. -/
theorem Visits.delivers {r : Runner} {budget : Nat} {a : Activity} (h : r.Visits budget a) :
    (∃ values, r.Delivers budget values a.machine) ∧
      ∃ values, r.Delivers budget values (a.final r.context) :=
  h.keeps (keeps_delivers r budget) ⟨[], .start⟩

/-- So is the end of the run. -/
theorem delivers_runWithin (r : Runner) (budget : Nat) :
    ∃ values, r.Delivers budget values (r.runWithin budget).2.machine :=
  keeps_runWithin (keeps_delivers r budget) ⟨[], .start⟩

end Runner

/-! ## Section 2: More to read -/

/-- The machine with more integers after those that are left. -/
def Machine.lengthened (more : List Int32) (m : Machine) : Machine :=
  { m with pool := ⟨m.pool.rest ++ more, m.pool.consumed⟩ }

/-- Whether a halt is the fault of finding nothing left to read. -/
def Halt.IsExhausted (halt : Halt) : Prop :=
  ∃ consumed loc, halt = .fault (.inputExhausted consumed loc)

/-- The coupling of a run and the run on a longer input. -/
def Coupling.lengthening (more : List Int32) : Coupling :=
  ⟨.same, fun m m' => m' = m.lengthened more, Halt.IsExhausted⟩

namespace Coupling

variable {more : List Int32}

/-- A record shows nothing of the pool. -/
theorem agrees_record_lengthened (label : String) (m : Machine) :
    (lengthening more).Agrees Eq (record label m) (record label (m.lengthened more)) := by
  have hsnapshot : snapshot label (m.lengthened more) = snapshot label m := rfl
  have hhistory : (m.lengthened more).history = m.history := rfl
  unfold record
  rw [hhistory, hsnapshot]
  split
  · exact .ok rfl rfl
  · dsimp only
    split
    · exact .error_of_eq rfl rfl
    · exact .ok rfl rfl

/-- The next integer is the same, or there is none in the first run. -/
theorem agrees_next_lengthened (loc : Location) (m : Machine) :
    (lengthening more).Agrees Eq (next loc m) (next loc (m.lengthened more)) := by
  rcases next_cases loc m with ⟨-, hnext⟩ | ⟨value, rest, hrest, hnext⟩
  · -- Nothing is left in the first run, which escapes, and the second run prints nothing here.
    rw [hnext]
    have hgrown := grows_next loc (m.lengthened more)
    exact .escape ⟨_, loc, rfl⟩ ⟨hgrown.output, hgrown.steps⟩
  · have hnext' : next loc (m.lengthened more) =
        .ok value { m with pool := ⟨rest ++ more, m.pool.consumed + 1⟩ } := by
      simp only [next, Pool.next?, lengthened, hrest, List.cons_append]
    rw [hnext, hnext']
    exact .ok rfl rfl

/-- A run and the run on a longer input correspond. -/
theorem lengthening_sound (ctx : Context) : (lengthening more).Sound ctx ctx where
  output h := by cases h; rfl
  steps h := by cases h; rfl
  scope h := by cases h; rfl
  depth h := by cases h; rfl
  callDepth h := by cases h; rfl
  loc h := by cases h; rfl
  load _ _ _ _ h := by cases h; rfl
  putchar _ := Iff.rfl
  known h := h.trans (congrArg some (Routine.relabel_same _).symm)
  unknown h := .inl h
  maxDepth := .inl rfl
  tick h := by cases h; exact .tick rfl rfl rfl rfl
  record label _ _ h := by cases h; exact agrees_record_lengthened label _
  next loc _ _ h := by cases h; exact agrees_next_lengthened loc _
  place _ _ _ h := by cases h; rfl
  noted event _ _ h := by
    cases h
    exact congrArg (Machine.noted · _) event.relabel_same
  save _ _ _ _ _ h := by cases h; rfl
  declare _ _ _ h := by cases h; rfl
  print _ _ _ h := by cases h; rfl
  opened h := by cases h; rfl
  closed h h' := by cases h; cases h'; rfl
  called _ _ _ h := by cases h; rfl
  returned h h' := by cases h; cases h'; rfl
  mainBegun _ _ _ h := by cases h; rfl
  mainEnded h := by cases h; rfl

end Coupling

/-- A run does what the run on a longer input does, or finds nothing left to read on the way. -/
theorem Runner.foreruns_lengthened (program : Program) (xs ys : List Int32) (limits : Limits)
    (logged : Bool) :
    (ofProgram program xs limits logged).Foreruns Halt.IsExhausted
      (ofProgram program (xs ++ ys) limits logged) := by
  have hC : (Coupling.lengthening ys).Sound (ofProgram program xs limits logged).context
      (ofProgram program (xs ++ ys) limits logged).context := Coupling.lengthening_sound _
  have hm : (Coupling.lengthening ys).alike (ofProgram program xs limits logged).machine
      (ofProgram program (xs ++ ys) limits logged).machine := rfl
  refine hC.foreruns rfl (fun h => ?_) rfl hm
  cases h
  exact ⟨rfl, rfl, rfl, rfl⟩

/-! ## Section 3: Whole runs -/

/-- Input is read in order, and what is not read does not matter. At every point of a run, what has been
delivered and what is left make up the input, and as many integers count as consumed as have been
delivered; every point is reached by such deliveries. A run that finds nothing left to read has consumed
the whole input, and tells so. A run that ends otherwise is, in all that one sees of it, the run on any
longer input. One that finds nothing left has printed a first part of what the run on a longer input
prints, whether that run ends or not. -/
theorem input_is_read_in_order (program : Program) (xs ys : List Int32) (limits : Limits)
    (logged : Bool) :
    let r := Runner.ofProgram program xs limits logged
    let longer := Runner.ofProgram program (xs ++ ys) limits logged
    (∀ budget, (∀ values m, r.Delivers budget values m →
          values ++ m.pool.rest = xs ∧ m.pool.consumed = values.length) ∧
        (∀ a, r.Visits budget a → (∃ values, r.Delivers budget values a.machine) ∧
          ∃ values, r.Delivers budget values (a.final r.context)) ∧
        ∃ values, r.Delivers budget values (r.runWithin budget).2.machine) ∧
      (∀ budget consumed loc,
        (r.runWithin budget).1 = .error (.fault (.inputExhausted consumed loc)) →
          consumed = xs.length ∧ (r.runWithin budget).2.machine.pool = ⟨[], xs.length⟩) ∧
      (∀ run, r.Ends run → (∀ consumed loc, run.1 ≠ .error (.fault (.inputExhausted consumed loc))) →
        ∃ run', longer.Ends run' ∧ Runner.SameRun run run') ∧
      ∀ run consumed loc, r.Ends run → run.1 = .error (.fault (.inputExhausted consumed loc)) →
        (∀ run', longer.Ends run' →
          run.2.machine.output.bytes.toList <+: run'.2.machine.output.bytes.toList) ∧
        ∃ enough, ∀ budget, enough ≤ budget → run.2.machine.output.bytes.toList <+:
          (longer.runWithin budget).2.machine.output.bytes.toList := by
  intro r longer
  have hsplit : ∀ budget values m, r.Delivers budget values m →
      values ++ m.pool.rest = xs ∧ m.pool.consumed = values.length := by
    intro budget values m h
    obtain ⟨hvalues, hconsumed⟩ := h.split
    exact ⟨hvalues, hconsumed.trans (Nat.zero_add _)⟩
  have hforeruns : r.Foreruns Halt.IsExhausted longer :=
    Runner.foreruns_lengthened program xs ys limits logged
  refine ⟨fun budget => ⟨hsplit budget, fun a ha => ha.delivers, r.delivers_runWithin budget⟩, ?_, ?_,
    ?_⟩
  · intro budget consumed loc hexhausted
    obtain ⟨hrest, rfl⟩ := Runner.trueOf_runWithin hexhausted
    obtain ⟨values, hvalues⟩ := r.delivers_runWithin budget
    obtain ⟨hxs, hconsumed⟩ := hsplit budget values _ hvalues
    -- Nothing is left, so that all of the input has been delivered.
    rw [hrest, List.append_nil] at hxs
    rw [hxs] at hconsumed
    generalize (r.runWithin budget).2.machine.pool = pool at hrest hconsumed ⊢
    cases pool
    exact ⟨hconsumed, congrArg₂ Pool.mk hrest hconsumed⟩
  · intro run hends hescapes
    refine hforeruns.sameRun hends ?_
    rintro halt hhalt ⟨consumed, loc, rfl⟩
    exact hescapes consumed loc hhalt
  · intro run consumed loc hends _
    refine ⟨fun run' hends' => (hforeruns.grown hends hends').output, ?_⟩
    obtain ⟨enough, hgrown⟩ := hforeruns.exists_grown hends
    exact ⟨enough, fun budget hle => (hgrown budget hle).output⟩

/-- A program that reads an integer and prints it, and then another one. -/
def echoesTwice : Program :=
  let x : Reference Node := .plain "x" .start
  ⟨[⟨mainName, [], .sequence [.input [x] .start, .output [.var x] .start, .input [x] .start,
    .output [.var x] .start], .start⟩], []⟩

/-- Of three integers the last one does not matter. With one of them only, the run ends at the second
reading; it has consumed that one, and has printed it as the longer run does. -/
theorem input_is_read_in_order_echoesTwice :
    (∃ run', (Runner.ofProgram echoesTwice [5, 7, 9] ⟨none, 0, none⟩ false).Ends run' ∧
        Runner.SameRun
          ((Runner.ofProgram echoesTwice [5, 7] ⟨none, 0, none⟩ false).runWithin 3) run') ∧
      ((Runner.ofProgram echoesTwice [5] ⟨none, 0, none⟩ false).runWithin 3).2.machine.pool =
        ⟨[], 1⟩ ∧
      ((Runner.ofProgram echoesTwice [5] ⟨none, 0, none⟩ false).runWithin
          3).2.machine.output.bytes.toList <+:
        ((Runner.ofProgram echoesTwice [5, 7] ⟨none, 0, none⟩ false).runWithin
          3).2.machine.output.bytes.toList := by
  have hend : ((Runner.ofProgram echoesTwice [5, 7] ⟨none, 0, none⟩ false).runWithin 3).1 =
    .ok () := rfl
  have hexhausted : ((Runner.ofProgram echoesTwice [5] ⟨none, 0, none⟩ false).runWithin 3).1 =
    .error (.fault (.inputExhausted 1 .start)) := rfl
  obtain ⟨-, -, hsame, -⟩ := input_is_read_in_order echoesTwice [5, 7] [9] ⟨none, 0, none⟩ false
  obtain ⟨-, hconsumed, -, hpart⟩ :=
    input_is_read_in_order echoesTwice [5] [7] ⟨none, 0, none⟩ false
  refine ⟨hsame _ ⟨?_, 3, rfl⟩ ?_, (hconsumed 3 1 .start hexhausted).2, ?_⟩
  · rw [hend]; nofun
  · rw [hend]; nofun
  · refine (hpart _ 1 .start ⟨?_, 3, rfl⟩ hexhausted).1 _ ⟨?_, 3, rfl⟩
    · rw [hexhausted]; nofun
    · rw [hend]; nofun

end Stepwise
