import Stepwise.Proofs.Comparison

/-!
# Tracing does not interfere

A run with a trace is compared with the run of the same program without one. The two machines are the
same but for the trace, and nothing that evaluation does looks at the trace except when a record is
added to it. There the traced run may stop, because the record does not fit, and the other one goes
on: this is the one escape of the coupling.

## Main results

* `untracing_sound`: every primitive action respects the loss of the trace.
* `tracing_does_not_interfere`: what a trace does to whole runs, which is nothing or an early end.
-/

namespace Stepwise

open Machine Exec

/-! ## Section 1: The machine without its trace -/

/-- The machine without its trace. -/
def Machine.untraced (m : Machine) : Machine :=
  { m with history := none }

/-- Whether a halt is the fault of a trace that has outgrown its budget. -/
def Halt.IsTraceMemory (halt : Halt) : Prop :=
  ∃ needed limit, halt = .fault (.traceMemory needed limit)

/-- The coupling of a run with a trace and the run without it. -/
def Coupling.untracing : Coupling :=
  ⟨.same, fun m m' => m' = m.untraced, Halt.IsTraceMemory⟩

namespace Coupling

variable {α : Type}

/-- Adding a record changes the trace only, or is the escape. -/
theorem agrees_record_untraced (label : String) (m : Machine) :
    untracing.Agrees Eq (record label m) (record label m.untraced) := by
  have hplain : record label m.untraced = .ok () m.untraced := rfl
  rw [hplain]
  unfold record
  split
  · exact .ok rfl rfl
  · dsimp only
    split
    · exact .escape ⟨_, _, rfl⟩ ⟨List.prefix_rfl, Nat.le_refl _⟩
    · exact .ok rfl rfl

/-- Two runs of the same program under the same limits correspond, whether they are traced or not. -/
theorem untracing_sound {traced plain : Context} (hprogram : plain.program = traced.program)
    (hsteps : plain.limits.maxSteps = traced.limits.maxSteps)
    (hdepth : plain.limits.maxDepth = traced.limits.maxDepth) :
    untracing.Sound traced plain where
  output h := by cases h; rfl
  steps h := by cases h; rfl
  scope h := by cases h; rfl
  depth h := by cases h; rfl
  callDepth h := by cases h; rfl
  loc h := by cases h; rfl
  load _ _ _ _ h := by cases h; rfl
  putchar _ := Iff.rfl
  known h := by rw [hprogram]; exact h.trans (congrArg some (Routine.relabel_same _).symm)
  unknown h := .inl (by rw [hprogram]; exact h)
  maxDepth := .inl hdepth
  tick h := by cases h; exact .tick hsteps rfl rfl rfl
  record label _ _ h := by cases h; exact agrees_record_untraced label _
  next loc _ _ h := by cases h; exact .next loc rfl rfl fun _ => rfl
  place _ _ _ h := by cases h; rfl
  noted event _ _ h := by
    cases h
    exact congrArg (Machine.noted · _) event.relabel_same
  save _ _ _ _ _ h := by cases h; rfl
  declare _ _ _ h := by cases h; rfl
  print _ _ _ h := by cases h; rfl
  opened h := by cases h; rfl
  closed h h' := by cases h; cases h'; rfl
  called _ _ _ h := by cases h; rfl
  returned h h' := by cases h; cases h'; rfl
  mainBegun _ _ _ h := by cases h; rfl
  mainEnded h := by cases h; rfl

end Coupling

/-! ## Section 2: Whole runs -/

namespace Runner

variable {program : Program} {inputs : List Int32} {maxSteps : Option Nat} {depth limit : Nat}
  {logged : Bool}

/-- A traced run does what the other one does, or its trace stops it on the way. -/
theorem traced_foreruns :
    (ofProgram program inputs ⟨maxSteps, depth, some limit⟩ logged).Foreruns Halt.IsTraceMemory
      (ofProgram program inputs ⟨maxSteps, depth, none⟩ logged) := by
  have hC : Coupling.untracing.Sound
      (ofProgram program inputs ⟨maxSteps, depth, some limit⟩ logged).context
      (ofProgram program inputs ⟨maxSteps, depth, none⟩ logged).context :=
    Coupling.untracing_sound rfl rfl rfl
  -- The first machine of the traced run has an empty trace, and the other one has none.
  have hm : Coupling.untracing.alike
      (ofProgram program inputs ⟨maxSteps, depth, some limit⟩ logged).machine
      (ofProgram program inputs ⟨maxSteps, depth, none⟩ logged).machine := rfl
  refine hC.foreruns rfl (fun h => ?_) rfl hm
  cases h
  exact ⟨rfl, rfl, rfl, rfl⟩

/-- A traced run that ends by itself is the run without a trace. -/
theorem Ends.sameRun_of_traced {run : Except Halt Unit × Runner}
    (h : (ofProgram program inputs ⟨maxSteps, depth, some limit⟩ logged).Ends run)
    (hmemory : ∀ needed limit', run.1 ≠ .error (.fault (.traceMemory needed limit'))) :
    ∃ run', (ofProgram program inputs ⟨maxSteps, depth, none⟩ logged).Ends run' ∧
      SameRun run run' := by
  refine traced_foreruns.sameRun h ?_
  rintro halt hhalt ⟨needed, limit', rfl⟩
  exact hmemory needed limit' hhalt

/-- From some budget on, the run without a trace prints what the traced one has printed, and more. -/
theorem Ends.exists_grown_of_traced {run : Except Halt Unit × Runner}
    (h : (ofProgram program inputs ⟨maxSteps, depth, some limit⟩ logged).Ends run) :
    ∃ enough, ∀ budget, enough ≤ budget → run.2.machine.Grown
      ((ofProgram program inputs ⟨maxSteps, depth, none⟩ logged).runWithin budget).2.machine :=
  traced_foreruns.exists_grown h

theorem Ends.grown_of_traced {run run' : Except Halt Unit × Runner}
    (h : (ofProgram program inputs ⟨maxSteps, depth, some limit⟩ logged).Ends run)
    (h' : (ofProgram program inputs ⟨maxSteps, depth, none⟩ logged).Ends run') :
    run.2.machine.Grown run'.2.machine :=
  traced_foreruns.grown h h'

/-- Where a run ends without a trace, it ends with one. -/
theorem Ends.exists_traced {run' : Except Halt Unit × Runner}
    (h : (ofProgram program inputs ⟨maxSteps, depth, none⟩ logged).Ends run') :
    ∃ run, (ofProgram program inputs ⟨maxSteps, depth, some limit⟩ logged).Ends run :=
  traced_foreruns.exists_ends (by rintro ⟨_, _, ⟨⟩⟩) h

end Runner

/-- Tracing does not interfere. A traced run that ends otherwise than by the budget of its trace is the
run without a trace in all that one sees of it. One that is stopped by that budget has printed a first
part of what the run without a trace prints, whether that run ends or not, and if it ends, it has not
taken fewer steps. Wherever the run without a trace ends, the traced one does. -/
theorem tracing_does_not_interfere (program : Program) (inputs : List Int32)
    (maxSteps : Option Nat) (depth limit : Nat) (logged : Bool) :
    let tracing := Runner.ofProgram program inputs ⟨maxSteps, depth, some limit⟩ logged
    let plain := Runner.ofProgram program inputs ⟨maxSteps, depth, none⟩ logged
    (∀ run, tracing.Ends run →
      (∀ needed limit', run.1 ≠ .error (.fault (.traceMemory needed limit'))) →
        ∃ run', plain.Ends run' ∧ Runner.SameRun run run') ∧
    (∀ run needed limit', tracing.Ends run →
      run.1 = .error (.fault (.traceMemory needed limit')) →
        (∀ run', plain.Ends run' →
          run.2.machine.output.bytes.toList <+: run'.2.machine.output.bytes.toList ∧
            run.2.machine.steps ≤ run'.2.machine.steps) ∧
        ∃ enough, ∀ budget, enough ≤ budget → run.2.machine.output.bytes.toList <+:
          (plain.runWithin budget).2.machine.output.bytes.toList) ∧
    ∀ run', plain.Ends run' → ∃ run, tracing.Ends run := by
  intro tracing plain
  refine ⟨fun run h hmemory => h.sameRun_of_traced hmemory, ?_, fun run' h => h.exists_traced⟩
  intro run needed limit' h _
  refine ⟨fun run' h' => ?_, ?_⟩
  · have hgrown := h.grown_of_traced h'
    exact ⟨hgrown.output, hgrown.steps⟩
  · obtain ⟨enough, hgrown⟩ := h.exists_grown_of_traced
    exact ⟨enough, fun budget hle => (hgrown budget hle).output⟩

/-- Two records fit into 216 bytes and not into 215: the first run prints twice, and the second one is
stopped before it does. -/
theorem tracing_does_not_interfere_printsTwice :
    (∃ run', (Runner.ofProgram printsTwice [] ⟨none, 0, none⟩ false).Ends run' ∧ Runner.SameRun
        ((Runner.ofProgram printsTwice [] ⟨none, 0, some 216⟩ false).runWithin 3) run') ∧
      ((Runner.ofProgram printsTwice [] ⟨none, 0, some 215⟩ false).runWithin 3).1 =
        .error (.fault (.traceMemory 216 215)) ∧
      ((Runner.ofProgram printsTwice [] ⟨none, 0, some 215⟩ false).runWithin
          3).2.machine.output.bytes.toList <+:
        ((Runner.ofProgram printsTwice [] ⟨none, 0, none⟩ false).runWithin
          3).2.machine.output.bytes.toList := by
  have hfits : ((Runner.ofProgram printsTwice [] ⟨none, 0, some 216⟩ false).runWithin 3).1 =
    .ok () := rfl
  have hstopped : ((Runner.ofProgram printsTwice [] ⟨none, 0, some 215⟩ false).runWithin 3).1 =
    .error (.fault (.traceMemory 216 215)) := rfl
  have hplain : ((Runner.ofProgram printsTwice [] ⟨none, 0, none⟩ false).runWithin 3).1 =
    .ok () := rfl
  refine ⟨?_, hstopped, ?_⟩
  · refine (tracing_does_not_interfere printsTwice [] none 0 216 false).1 _ ⟨?_, 3, rfl⟩ ?_
    · rw [hfits]; nofun
    · rw [hfits]; nofun
  · refine (((tracing_does_not_interfere printsTwice [] none 0 215 false).2.1 _ 216 215
      ⟨?_, 3, rfl⟩ hstopped).1 _ ⟨?_, 3, rfl⟩).1
    · rw [hstopped]; nofun
    · rw [hplain]; nofun

end Stepwise
