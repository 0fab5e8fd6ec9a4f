import Stepwise.Proofs.Ceilings
import Stepwise.Proofs.Relocation
import Stepwise.Proofs.Unplaced
import Stepwise.Session

/-!
# The layout of a program does not matter

Two texts whose tokens read the same are the same program, however their tokens are laid out. Reading
hands places on without looking at them, and so does running: places show up in faults and in records
of a trace, and nowhere else. If the places of a program are moved, its run is the same run with its
places moved. Two layouts of a program are then compared through a third one, in which all tokens
stand at the start of the text.

## Main results

* `Coupling.moving_sound`: every primitive action respects the moving of places.
* `Runner.runWithin_moved`: whole runs do.
* `layout_does_not_matter`: two layouts of one program, from their tokens to the end of their runs.
-/

namespace Stepwise

open Machine Exec

variable (f : Location → Location)

/-! ## Section 1: Machines -/

/-- The record with its place moved. -/
def Snapshot.moved (snapshot : Snapshot) : Snapshot :=
  { snapshot with loc := f snapshot.loc }

/-- The trace with the places of its records moved. -/
def History.moved (history : History) : History :=
  { history with snapshots := history.snapshots.map (Snapshot.moved f) }

/-- The machine with all places moved. -/
def Machine.moved (m : Machine) : Machine :=
  { m with loc := f m.loc, history := m.history.map (History.moved f) }

theorem History.add_moved (history : History) (snapshot : Snapshot) :
    (history.moved f).add (snapshot.moved f) = (history.add snapshot).moved f := by
  simp [History.add, History.moved, Snapshot.cost, Snapshot.valueCount, Snapshot.moved]

theorem History.empty_moved (limit : Nat) : (History.empty limit).moved f = History.empty limit := by
  simp [History.empty, History.moved]

/-- Events tell no places. -/
theorem Event.relabel_moving (event : Event) : event.relabel (.moving f) = event := by
  cases event <;> rfl

/-! ## Section 2: Actions -/

/-- The coupling of a run with the run whose places have been moved. -/
def Coupling.moving : Coupling :=
  ⟨.moving f, fun m m' => m' = m.moved f, fun _ => False⟩

namespace Coupling

/-- A record is counted with as many bytes wherever its place is. -/
theorem agrees_record_moved (label : String) (m : Machine) :
    (moving f).Agrees Eq (record label m) (record label (m.moved f)) := by
  unfold record
  cases hhistory : m.history with
  | none =>
    rw [show (m.moved f).history = none by simp [Machine.moved, hhistory]]
    exact .ok rfl rfl
  | some history =>
    rw [show (m.moved f).history = some (history.moved f) by simp [Machine.moved, hhistory]]
    show (moving f).Agrees Eq (if history.limit < history.needed (snapshot label m) then _ else _)
      (if history.limit < history.needed (snapshot label m) then _ else _)
    split
    · exact .error_of_eq rfl rfl
    · refine .ok rfl ?_
      show Machine.mk _ _ _ _ _ _ _ _ _ _ = Machine.mk _ _ _ _ _ _ _ _ _ _
      simp only [Option.map_some]
      rw [← History.add_moved]
      rfl

/-- Moving the places of a program moves those of the machine, and that is all it does. -/
theorem moving_sound (program : Program) (limits : Limits) :
    (moving f).Sound ⟨program, limits⟩ ⟨program.relabel (.moving f), limits⟩ where
  output h := by cases h; rfl
  steps h := by cases h; rfl
  scope h := by cases h; rfl
  depth h := by cases h; rfl
  callDepth h := by cases h; rfl
  loc h := by cases h; rfl
  load _ _ _ _ h := by cases h; rfl
  putchar _ := Iff.rfl
  known h := (program.find?_moved f _).trans (congrArg (Option.map _) h)
  unknown h := .inl ((program.find?_moved f _).trans (congrArg (Option.map _) h))
  maxDepth := .inl rfl
  tick h := by cases h; exact .tick rfl rfl rfl rfl
  record label _ _ h := by cases h; exact agrees_record_moved f label _
  next loc _ _ h := by cases h; exact .next loc rfl rfl fun _ => rfl
  place _ _ _ h := by cases h; rfl
  noted event _ _ h := by
    cases h
    exact congrArg (Machine.noted · _) (event.relabel_moving f)
  save _ _ _ _ _ h := by cases h; rfl
  declare _ _ _ h := by cases h; rfl
  print _ _ _ h := by cases h; rfl
  opened h := by cases h; rfl
  closed h h' := by cases h; cases h'; rfl
  called _ _ _ h := by cases h; rfl
  returned h h' := by cases h; cases h'; rfl
  mainBegun _ _ _ h := by cases h; rfl
  mainEnded h := by cases h; rfl

end Coupling

/-! ## Section 3: Runs -/

/-- What an action did, with all places moved. -/
def Exec.movedResult {α : Type} :
    EStateM.Result Halt Machine α → EStateM.Result Halt Machine α
  | .ok a m => .ok a (m.moved f)
  | .error halt m => .error (halt.relabel (.moving f)) (m.moved f)

variable {f} in
/-- Nothing escapes when places are moved, and so the second action does what the first one does. -/
theorem Coupling.Simulates.apply_moved {α : Type} {x y : Exec α}
    (h : (Coupling.moving f).Simulates Eq x y) (m : Machine) :
    y (m.moved f) = movedResult f (x m) := by
  have hagrees := h.agrees (show (Coupling.moving f).alike m (m.moved f) from rfl)
  generalize x m = result at hagrees ⊢
  generalize y (m.moved f) = result' at hagrees ⊢
  cases hagrees with
  | ok hv hm => rw [← hv, hm]; rfl
  | error hm => rw [hm]; rfl
  | escape hhalt _ => exact hhalt.elim

namespace Runner

/-- The runner with all places moved. -/
def moved (r : Runner) : Runner :=
  { r with program := r.program.relabel (.moving f), machine := r.machine.moved f }

/-- A run, with all places moved. -/
def movedRun (run : Except Halt Unit × Runner) : Except Halt Unit × Runner :=
  (run.1.mapError (Halt.relabel (.moving f)), run.2.moved f)

/-- Moving all places of a runner moves all places of its run. -/
theorem runWithin_moved (r : Runner) (budget : Nat) :
    (r.moved f).runWithin budget = movedRun f (r.runWithin budget) := by
  have hsound := Coupling.moving_sound f r.program r.limits
  have hglobals := (hsound.simulates_runGlobals (.inl rfl : (Coupling.moving f).Affords budget budget)
    r.program.globals).apply_moved r.machine
  unfold runWithin
  rw [show (r.moved f).program.find? mainName = _ from r.program.find?_moved f mainName]
  cases r.program.find? mainName with
  | none => rfl
  | some main =>
    dsimp only [Option.map_some]
    rw [show runGlobals ⟨(r.moved f).program, (r.moved f).limits⟩ budget (r.moved f).program.globals
      (r.moved f).machine = _ from hglobals]
    cases runGlobals ⟨r.program, r.limits⟩ budget r.program.globals r.machine with
    | error halt m => rfl
    | ok _ m =>
      -- The main function begins on the machine that the globals have left, moved or not.
      have hmain := (hsound.simulates_runMain
        (.inl rfl : (Coupling.moving f).Affords budget budget) main).apply_moved m
      dsimp only [movedResult]
      rw [show runMain ⟨(r.moved f).program, (r.moved f).limits⟩ budget (main.relabel (.moving f))
        (m.moved f) = _ from hmain]
      cases runMain ⟨r.program, r.limits⟩ budget main m with
      | error halt m => rfl
      | ok _ m => rfl

variable {f} in
/-- The runner of a program before its first run stands at the start of the text. -/
theorem ofProgram_moved (hstart : f .start = .start) (program : Program) (inputs : List Int32)
    (limits : Limits) (logged : Bool) :
    (ofProgram program inputs limits logged).moved f =
      ofProgram (program.relabel (.moving f)) inputs limits logged := by
  unfold ofProgram moved
  dsimp only [Machine.moved]
  rw [hstart, Option.map_map,
    show History.moved f ∘ History.empty = History.empty from funext (History.empty_moved f)]

end Runner

/-! ## Section 4: Sessions -/

/-- The failure with its place moved. -/
def Failure.moved : Failure → Failure
  | .header fault => .header fault
  | .source fault => .source ⟨fault.cause, f fault.loc⟩
  | .runtime fault => .runtime (fault.relabel (.moving f))
  | .cutShort => .cutShort

/-- What a session leaves behind, with all places moved. -/
def Execution.moved (execution : Execution) : Execution :=
  { execution with
    trace := execution.trace.map (History.moved f)
    failure := execution.failure.map (Failure.moved f) }

/-- What a session shows of a run. -/
def Execution.ofRun (run : Except Halt Unit × Runner) : Execution :=
  { output := run.2.machine.output
    trace := run.2.machine.history
    failure := match run.1 with
      | .ok _ => none
      | .error halt => some (.ofHalt halt)
    events := (run.2.machine.journal.getD #[]).toList }

theorem Execution.ofRun_moved (run : Except Halt Unit × Runner) :
    ofRun (Runner.movedRun f run) = (ofRun run).moved f := by
  obtain ⟨outcome, r⟩ := run
  cases outcome with
  | ok _ => rfl
  | error halt => cases halt <;> rfl

namespace Session

/-- Loads and runs the program of these tokens. -/
def executeTokens (ts : List Token) (inputs : List Int32) (limits : Limits) (logged : Bool) :
    Execution :=
  let loading := Loading.load ts
  let loaded := loading.read.map fun r => Event.loaded r.name r.params.length
  let execution : Execution := match loading.outcome with
    | .error fault => { failure := some (.source fault) }
    | .ok program => executeProgram program inputs limits logged
  { execution with events := Event.lexed ts.length :: loaded ++ execution.events }

theorem executeLogged_of_lexProgram {text : String} {ts : List Token}
    (h : Token.lexProgram text = .ok ts) (inputs : List Int32) (limits : Limits) (logged : Bool) :
    executeLogged text inputs limits logged = executeTokens ts inputs limits logged := by
  unfold executeLogged
  rw [h]
  rfl

variable {f} (hstart : f .start = .start) (inputs : List Int32) (limits : Limits) (logged : Bool)
include hstart

theorem executeProgram_moved (program : Program) :
    executeProgram (program.relabel (.moving f)) inputs limits logged =
      (executeProgram program inputs limits logged).moved f := by
  have hrun := Runner.runWithin_moved f (Runner.ofProgram program inputs limits logged)
    (Runner.budget limits)
  rw [Runner.ofProgram_moved hstart] at hrun
  exact (congrArg Execution.ofRun hrun).trans (Execution.ofRun_moved f _)

theorem executeTokens_moved (ts : List Token) :
    executeTokens (movedAll f ts) inputs limits logged =
      (executeTokens ts inputs limits logged).moved f := by
  unfold executeTokens
  rw [Loading.load_moved, List.length_map]
  obtain ⟨read, outcome⟩ := Loading.load ts
  -- The log tells names and numbers of parameters, which are not moved.
  have hloaded : (read.map (Routine.relabel (.moving f))).map
      (fun r => Event.loaded r.name r.params.length) =
      read.map fun r => Event.loaded r.name r.params.length := by
    simp [Routine.relabel_moving]
  dsimp only [Loading.moved]
  rw [hloaded]
  cases outcome with
  | error fault => rfl
  | ok program =>
    dsimp only [Expression.Reading.moved]
    rw [executeProgram_moved hstart]
    rfl

end Session

/-! ## Section 5: Trees and programs up to places -/

/-- The start of the text, whatever the place. -/
def Location.toStart (_ : Location) : Location :=
  .start

mutual

/-- A tree whose places have all been moved to the start has lost its places. -/
theorem Node.relabel_toStart : ∀ node : Node, node.relabel (.moving .toStart) = node.unplaced
  | .sequence statements => congrArg Node.sequence (relabelAll_toStart statements)
  | .empty => rfl
  | .literal _ _ => rfl
  | .var ref => congrArg Node.var (relabelRef_toStart ref)
  | .call callee args _ => congrArg (Node.call callee · .start) (relabelAll_toStart args)
  | .unary op operand _ => congrArg (Node.unary op · .start) (Node.relabel_toStart operand)
  | .binary _ left right _ => by
    rw [Node.relabel, Node.relabel_toStart left, Node.relabel_toStart right]
    rfl
  | .assignment target value _ => by
    rw [Node.relabel, relabelRef_toStart target, Node.relabel_toStart value]
    rfl
  | .input targets _ => congrArg (Node.input · .start) (relabelRefs_toStart targets)
  | .output items _ => congrArg (Node.output · .start) (relabelAll_toStart items)
  | .endl _ => rfl
  | .declaration _ _ => rfl
  | .ifElse condition thenBranch elseBranch _ => by
    rw [Node.relabel, Node.relabel_toStart condition, Node.relabel_toStart thenBranch,
      relabelElse_toStart elseBranch]
    rfl
  | .whileLoop condition body _ => by
    rw [Node.relabel, Node.relabel_toStart condition, Node.relabel_toStart body]
    rfl
  | .forLoop init condition step body _ => by
    rw [Node.relabel, Node.relabel_toStart init, Node.relabel_toStart condition,
      Node.relabel_toStart step, Node.relabel_toStart body]
    rfl
  | .giveBack value _ => congrArg (Node.giveBack · .start) (Node.relabel_toStart value)
  | .block body _ => congrArg (Node.block · .start) (Node.relabel_toStart body)

theorem relabelAll_toStart :
    ∀ nodes : List Node, relabelAll (.moving .toStart) nodes = unplacedAll nodes
  | [] => rfl
  | node :: nodes => by
    rw [relabelAll, Node.relabel_toStart node, relabelAll_toStart nodes, unplacedAll]

theorem relabelRef_toStart :
    ∀ ref : Reference Node, relabelRef (.moving .toStart) ref = unplacedRef ref
  | ⟨name, indices, _⟩ => congrArg (Reference.mk name · .start) (relabelAll_toStart indices)

theorem relabelRefs_toStart :
    ∀ refs : List (Reference Node), relabelRefs (.moving .toStart) refs = unplacedRefs refs
  | [] => rfl
  | ref :: refs => by
    rw [relabelRefs, relabelRef_toStart ref, relabelRefs_toStart refs, unplacedRefs]

theorem relabelElse_toStart :
    ∀ branch : Option Node, relabelElse (.moving .toStart) branch = unplacedElse branch
  | none => rfl
  | some node => congrArg some (Node.relabel_toStart node)

end

/-- The function without its places. -/
def Routine.unplaced (routine : Routine) : Routine :=
  { routine with body := routine.body.unplaced, loc := .start }

/-- The program without its places. -/
def Program.unplaced (program : Program) : Program :=
  ⟨program.routines.map Routine.unplaced, unplacedAll program.globals⟩

theorem Routine.relabel_toStart (routine : Routine) :
    routine.relabel (.moving .toStart) = routine.unplaced := by
  rw [Routine.relabel_moving, Node.relabel_toStart]
  rfl

theorem Program.relabel_toStart (program : Program) :
    program.relabel (.moving .toStart) = program.unplaced := by
  unfold Program.relabel Program.unplaced
  rw [relabelAll_toStart, List.map_congr_left fun routine _ => routine.relabel_toStart]

/-- Tokens that read the same are the same when all of them stand at the start. -/
theorem movedAll_toStart_of_texts {ts ts' : List Token} (h : ts.map Token.text = ts'.map Token.text) :
    movedAll .toStart ts = movedAll .toStart ts' := by
  have htexts : ∀ ts : List Token,
      movedAll .toStart ts = (ts.map Token.text).map fun text => ⟨text, .start⟩ := by
    intro ts
    rw [List.map_map]
    rfl
  rw [htexts, htexts, h]

/-! ## Section 6: Two layouts -/

/-- What one sees of a run, its places apart: its outcome, its output and steps, how many integers it
has read, the values at the root, the trace and the events. -/
structure Runner.SameUpToPlaces (run run' : Except Halt Unit × Runner) : Prop where
  outcome : run.1.mapError (Halt.relabel (.moving .toStart)) =
    run'.1.mapError (Halt.relabel (.moving .toStart))
  output : run.2.machine.output = run'.2.machine.output
  steps : run.2.machine.steps = run'.2.machine.steps
  consumed : run.2.machine.pool.consumed = run'.2.machine.pool.consumed
  globals (key : String) : run.2.global key = run'.2.global key
  trace : run.2.machine.history.map (History.moved .toStart) =
    run'.2.machine.history.map (History.moved .toStart)
  events : run.2.machine.journal = run'.2.machine.journal

theorem Runner.SameUpToPlaces.of_moved {run run' : Except Halt Unit × Runner}
    (h : movedRun .toStart run = movedRun .toStart run') : SameUpToPlaces run run' := by
  have hmachine : run.2.machine.moved .toStart = run'.2.machine.moved .toStart :=
    congrArg (fun run => run.2.machine) h
  -- Moving changes the place and the trace only, and all other parts are read off as they are.
  exact {
    outcome := congrArg Prod.fst h
    output := (congrArg Machine.output hmachine :)
    steps := (congrArg Machine.steps hmachine :)
    consumed := (congrArg (fun m => m.pool.consumed) hmachine :)
    globals := fun key => (congrArg (fun m => m.store.get 0 key) hmachine :)
    trace := congrArg Machine.history hmachine
    events := (congrArg Machine.journal hmachine :) }

/-- Programs that are the same up to places run alike, within every budget. -/
theorem Runner.sameUpToPlaces_of_unplaced {program program' : Program}
    (h : program.unplaced = program'.unplaced) (inputs : List Int32) (limits : Limits)
    (logged : Bool) (budget : Nat) :
    SameUpToPlaces ((ofProgram program inputs limits logged).runWithin budget)
      ((ofProgram program' inputs limits logged).runWithin budget) := by
  have hrunner : (ofProgram program inputs limits logged).moved .toStart =
      (ofProgram program' inputs limits logged).moved .toStart := by
    rw [ofProgram_moved rfl, ofProgram_moved rfl, Program.relabel_toStart, Program.relabel_toStart, h]
  refine .of_moved ?_
  rw [← runWithin_moved, ← runWithin_moved, hrunner]

/-- Two lists of tokens that read the same are found wrong for the same cause, or are read as programs
that are the same up to places. -/
theorem Program.ofTokens_of_texts {ts ts' : List Token} (h : ts.map Token.text = ts'.map Token.text) :
    (∃ fault fault', Program.ofTokens ts = .error fault ∧ Program.ofTokens ts' = .error fault' ∧
      fault.cause = fault'.cause) ∨
    ∃ program program', Program.ofTokens ts = .ok program ∧ Program.ofTokens ts' = .ok program' ∧
      program.unplaced = program'.unplaced := by
  -- Both lists become one when all tokens stand at the start, and so do their readings.
  have hmoved := Program.ofTokens_moved .toStart ts
  rw [movedAll_toStart_of_texts h, Program.ofTokens_moved] at hmoved
  cases hts : Program.ofTokens ts with
  | error fault =>
    cases hts' : Program.ofTokens ts' with
    | error fault' =>
      rw [hts, hts'] at hmoved
      simp only [Expression.Reading.moved, Except.error.injEq, SyntaxFault.mk.injEq] at hmoved
      exact .inl ⟨fault, fault', rfl, rfl, hmoved.1.symm⟩
    | ok program' =>
      rw [hts, hts'] at hmoved
      cases hmoved
  | ok program =>
    cases hts' : Program.ofTokens ts' with
    | error fault' =>
      rw [hts, hts'] at hmoved
      cases hmoved
    | ok program' =>
      rw [hts, hts'] at hmoved
      simp only [Expression.Reading.moved, Except.ok.injEq, Program.relabel_toStart] at hmoved
      exact .inr ⟨program, program', rfl, rfl, hmoved.symm⟩

/-- The layout of a program does not matter. Two lists of tokens that read the same are found wrong for
the same cause, or they are the same program up to places, and then their runs are the same up to
places. So two texts whose tokens read the same do the same from the beginning to the end. -/
theorem layout_does_not_matter {ts ts' : List Token} (h : ts.map Token.text = ts'.map Token.text) :
    ((∃ fault fault', Program.ofTokens ts = .error fault ∧ Program.ofTokens ts' = .error fault' ∧
        fault.cause = fault'.cause) ∨
      ∃ program program', Program.ofTokens ts = .ok program ∧ Program.ofTokens ts' = .ok program' ∧
        program.unplaced = program'.unplaced ∧
        ∀ inputs limits logged budget, Runner.SameUpToPlaces
          ((Runner.ofProgram program inputs limits logged).runWithin budget)
          ((Runner.ofProgram program' inputs limits logged).runWithin budget)) ∧
    ∀ text text', Token.lexProgram text = .ok ts → Token.lexProgram text' = .ok ts' →
      ∀ inputs limits logged,
        (Session.executeLogged text inputs limits logged).moved .toStart =
          (Session.executeLogged text' inputs limits logged).moved .toStart := by
  constructor
  · rcases Program.ofTokens_of_texts h with hfault | ⟨program, program', hts, hts', hunplaced⟩
    · exact .inl hfault
    · exact .inr ⟨program, program', hts, hts', hunplaced,
        Runner.sameUpToPlaces_of_unplaced hunplaced⟩
  · intro text text' htext htext' inputs limits logged
    rw [Session.executeLogged_of_lexProgram htext, Session.executeLogged_of_lexProgram htext',
      ← Session.executeTokens_moved rfl, ← Session.executeTokens_moved rfl,
      movedAll_toStart_of_texts h]

/-- A program on one line behind the lines that open it. -/
def dividesByZero : String :=
  "#include<iostream>\n#include<cstdio>\nusing namespace std;\n" ++
    "int main()\x7bcout<<1/0;\x7d"

/-- The same with a layout of its own. -/
def dividesByZeroSpread : String :=
  "\n#include<iostream>  \n#include<cstdio>\n\nusing namespace std;\n" ++
    "int main ( )\n\x7b\n  cout << 1\n    / 0;\n\x7d\n"

/-- The tokens of both texts, at the places of one of them. -/
def dividingTokens (places : List Location) : List Token :=
  List.zipWith Token.mk
    ["int", "main", "(", ")", "\x7b", "cout", "<<", "1", "/", "0", ";", "\x7d"] places

/-- The two layouts are the same program up to places, and they fail in the same way at different
places. -/
theorem layout_does_not_matter_dividesByZero :
    let ts := dividingTokens [⟨4, 1⟩, ⟨4, 5⟩, ⟨4, 9⟩, ⟨4, 10⟩, ⟨4, 11⟩, ⟨4, 12⟩, ⟨4, 16⟩, ⟨4, 18⟩,
      ⟨4, 19⟩, ⟨4, 20⟩, ⟨4, 21⟩, ⟨4, 22⟩]
    let ts' := dividingTokens [⟨6, 1⟩, ⟨6, 5⟩, ⟨6, 10⟩, ⟨6, 12⟩, ⟨7, 1⟩, ⟨8, 3⟩, ⟨8, 8⟩, ⟨8, 11⟩,
      ⟨9, 5⟩, ⟨9, 7⟩, ⟨9, 8⟩, ⟨10, 1⟩]
    let execution := Session.executeLogged dividesByZero [] ⟨some 9, 9, none⟩ false
    let execution' := Session.executeLogged dividesByZeroSpread [] ⟨some 9, 9, none⟩ false
    Token.lexProgram dividesByZero = .ok ts ∧ Token.lexProgram dividesByZeroSpread = .ok ts' ∧
      (∃ program program', Program.ofTokens ts = .ok program ∧ Program.ofTokens ts' = .ok program' ∧
        program.unplaced = program'.unplaced) ∧
      execution.failure = some (.runtime (.divisionByZero ⟨4, 19⟩)) ∧
      execution'.failure = some (.runtime (.divisionByZero ⟨9, 5⟩)) ∧
      execution.moved .toStart = execution'.moved .toStart := by
  intro ts ts' execution execution'
  have hlex : Token.lexProgram dividesByZero = .ok ts := rfl
  have hlex' : Token.lexProgram dividesByZeroSpread = .ok ts' := rfl
  have hread : ∃ program, Program.ofTokens ts = .ok program := ⟨_, rfl⟩
  have htexts : ts.map Token.text = ts'.map Token.text := rfl
  obtain ⟨hprograms, hsessions⟩ := layout_does_not_matter htexts
  refine ⟨hlex, hlex', ?_, ?_, ?_, hsessions _ _ hlex hlex' _ _ _⟩
  · rcases hprograms with ⟨fault, -, hfault, -⟩ | ⟨program, program', hts, hts', hsame, -⟩
    · obtain ⟨program, hread⟩ := hread
      rw [hread] at hfault
      cases hfault
    · exact ⟨program, program', hts, hts', hsame⟩
  · exact congrArg Execution.failure (Session.executeLogged_of_lexProgram hlex _ _ _)
  · exact congrArg Execution.failure (Session.executeLogged_of_lexProgram hlex' _ _ _)

end Stepwise
