import Stepwise.Proofs.Recording
import Stepwise.Session
import Stepwise.Viewer

/-!
# Moving through a trace

A viewer shows one record of a trace at a time. Two things are needed to see that it is safe to use.
The keys never lead out of the trace, because each of them leads either to a neighbour that exists or to
one of the two ends; drawing moves nothing. And what is shown of the output grows along the trace, because
the records of a trace were taken one after the other while output was only ever added; the last record of
a run that ended well shows all of it instead.

The first is about the viewer alone, and the second is about the run behind the trace. They meet in a
viewer of a trace that runs have left behind.

## Main results

* `Session.traced_of_executeLogged`: the traces that sessions leave behind are traces of runs.
* `Viewer.movedTo_press`: where a key leads.
* `Viewer.Later.position_le`: no viewer is led out of its trace.
* `Viewer.shownSize_mono`: what is shown of the output grows along the trace.
* `viewers_stay_in_the_trace`: all of this for every viewer of every run.
-/

namespace Stepwise

/-! ## Section 1: What the records show of the output -/

/-- Some runs of one program, well ended or not, have left this trace and this output behind. -/
def Traced (history : History) (output : Output) : Prop :=
  ∃ (program : Program) (inputs : List Int32) (maxSteps : Option Nat) (depth limit : Nat)
    (logged : Bool) (r : Runner),
    (Runner.ofProgram program inputs ⟨maxSteps, depth, some limit⟩ logged).Later r ∧
      r.machine.history = some history ∧ r.machine.output = output

namespace Traced

variable {history : History} {output : Output} {s t : Snapshot} {i j : Nat}

/-- The output only becomes longer after a record was taken. -/
theorem outputSize_le (h : Traced history output) (hs : history.get? i = some s) :
    s.outputSize ≤ output.size := by
  obtain ⟨program, inputs, maxSteps, depth, limit, logged, r, hlater, hhistory, rfl⟩ := h
  apply And.right
  apply hlater.chronicle.behind s
  -- A record of the trace is one of the machine's records, whose output is that of the machine or less.
  rw [Machine.records_of_history hhistory]
  exact Array.mem_toList_iff.mpr (Array.mem_of_getElem? hs)

/-- Of two records the later one shows no less of the output. -/
theorem outputSize_mono (h : Traced history output) (hij : i ≤ j) (hs : history.get? i = some s)
    (ht : history.get? j = some t) : s.outputSize ≤ t.outputSize := by
  rcases Nat.eq_or_lt_of_le hij with rfl | hlt
  · -- The same index, and so the same record.
    rw [Option.some.inj (hs.symm.trans ht)]
  · obtain ⟨program, inputs, maxSteps, depth, limit, logged, r, hlater, hhistory, rfl⟩ := h
    have hordered := hlater.chronicle.ordered
    rw [Machine.records_of_history hhistory] at hordered
    obtain ⟨hi, rfl⟩ := Array.getElem?_eq_some_iff.mp hs
    obtain ⟨hj, rfl⟩ := Array.getElem?_eq_some_iff.mp ht
    exact (List.pairwise_iff_getElem.mp hordered i j hi hj hlt).2

end Traced

namespace Session

variable {inputs : List Int32} {maxSteps : Option Nat} {depth limit : Nat} {logged : Bool}
  {history : History}

/-- The trace of a program's run comes with the output of that run. -/
theorem traced_of_executeProgram {program : Program}
    (h : (executeProgram program inputs ⟨maxSteps, depth, some limit⟩ logged).trace = some history) :
    Traced history (executeProgram program inputs ⟨maxSteps, depth, some limit⟩ logged).output :=
  ⟨program, inputs, maxSteps, depth, limit, logged, _, .again .self _, h, rfl⟩

/-- The traces that sessions leave behind are traces of runs: a text that is no program has none. -/
theorem traced_of_executeLogged {text : String}
    (h : (executeLogged text inputs ⟨maxSteps, depth, some limit⟩ logged).trace = some history) :
    Traced history (executeLogged text inputs ⟨maxSteps, depth, some limit⟩ logged).output := by
  unfold executeLogged at h ⊢
  cases hlex : Token.lexProgram text with
  | error missing =>
    rw [hlex] at h
    cases h
  | ok tokens =>
    simp only [hlex] at h ⊢
    cases hload : (Loading.load tokens).outcome with
    | error fault =>
      rw [hload] at h
      cases h
    | ok program =>
      simp only [hload] at h ⊢
      exact traced_of_executeProgram h

end Session

/-! ## Section 2: Where keys lead -/

/-- Where a key leads from a position in a trace of this size. -/
def Key.target (size position : Nat) : Key → Nat
  | .left => position - 1
  | .right => if size ≤ position + 1 then position else position + 1
  | .finish | .enter => size - 1
  | .home | .backspace => 0
  | .up | .down | .tab | .escape | .char _ | .other => position

namespace Key

variable {size position : Nat}

theorem target_right_of_lt (h : position + 1 < size) : right.target size position = position + 1 :=
  if_neg (Nat.not_le.mpr h)

/-- From the first position on, no key leads out of the trace. -/
theorem target_le (h : position ≤ size - 1) (key : Key) : key.target size position ≤ size - 1 := by
  cases key with
  | left => exact (Nat.sub_le position 1).trans h
  | right =>
    by_cases hlast : position + 1 < size
    · rw [target_right_of_lt hlast]
      omega
    · exact (Nat.le_of_eq (if_pos (Nat.not_lt.mp hlast))).trans h
  | finish | enter => exact Nat.le_refl _
  | home | backspace => exact Nat.zero_le _
  | up | down | tab | escape | char _ | other => exact h

theorem target_left_of_right (h : position + 1 < size) :
    left.target size (right.target size position) = position := by
  rw [target_right_of_lt h]
  exact Nat.add_sub_cancel position 1

theorem target_right_of_left (h : position ≠ 0) (hsize : position < size) :
    right.target size (left.target size position) = position := by
  have hback : position - 1 + 1 = position := Nat.sub_add_cancel (Nat.one_le_iff_ne_zero.mpr h)
  exact (target_right_of_lt (hback.symm ▸ hsize)).trans hback

end Key

namespace Viewer

/-- What keys and drawings make of a viewer. -/
inductive Later (first : Viewer) : Viewer → Prop where
  | self : Later first first
  | press {v : Viewer} (h : Later first v) (key : Key) : Later first (v.press key)
  | draw {v : Viewer} (h : Later first v) (width height : Nat) :
      Later first (v.draw width height).2

/-- The second viewer shows the same run as the first one, at this position of its trace. -/
structure MovedTo (v : Viewer) (position : Nat) (w : Viewer) : Prop where
  trace : w.trace = v.trace
  output : w.output = v.output
  error : w.error = v.error
  position : w.position = position

section

variable {v : Viewer} {position : Nat}

theorem movedTo_forward (v : Viewer) :
    v.MovedTo (Key.right.target v.trace.size v.position) v.forward := by
  unfold forward isLast Key.target
  by_cases h : v.trace.size ≤ v.position + 1
  · simp only [h, decide_true, if_true]
    exact ⟨rfl, rfl, rfl, rfl⟩
  · simp only [h, decide_false, Bool.false_eq_true, if_false]
    exact ⟨rfl, rfl, rfl, rfl⟩

theorem movedTo_backward (v : Viewer) :
    v.MovedTo (Key.left.target v.trace.size v.position) v.backward := by
  unfold backward
  by_cases h : v.position = 0
  · have hzero : v.position = v.position - 1 := by omega
    rw [if_pos h]
    exact ⟨rfl, rfl, rfl, hzero⟩
  · rw [if_neg h]
    exact ⟨rfl, rfl, rfl, rfl⟩

theorem movedTo_scroll (v : Viewer) (change : Nat → Nat) : v.MovedTo v.position (v.scroll change) := by
  unfold scroll
  split <;> exact ⟨rfl, rfl, rfl, rfl⟩

theorem MovedTo.trans {w u : Viewer} {position' : Nat} (h : v.MovedTo position w)
    (h' : w.MovedTo position' u) : v.MovedTo position' u :=
  ⟨h'.trace.trans h.trace, h'.output.trans h.output, h'.error.trans h.error, h'.position⟩

theorem MovedTo.of_stop {w : Viewer} (h : v.stop.MovedTo position w) : v.MovedTo position w :=
  ⟨h.trace, h.output, h.error, h.position⟩

/-- Of two viewers that one has been moved to, the first could have been moved to the second. -/
theorem MovedTo.beside {v' w : Viewer} {position' : Nat} (h' : v.MovedTo position' v')
    (h : v.MovedTo position w) : v'.MovedTo position w :=
  ⟨h.trace.trans h'.trace.symm, h.output.trans h'.output.symm, h.error.trans h'.error.symm, h.position⟩

/-- Where a key leads. -/
theorem movedTo_press (v : Viewer) (key : Key) :
    v.MovedTo (key.target v.trace.size v.position) (v.press key) := by
  cases key with
  | left =>
    apply MovedTo.of_stop
    exact movedTo_backward v.stop
  | right =>
    apply MovedTo.of_stop
    exact movedTo_forward v.stop
  | up => exact movedTo_scroll v Scroll.up
  | down => exact movedTo_scroll v Scroll.down
  | home | finish | enter | backspace | tab | escape | other => exact ⟨rfl, rfl, rfl, rfl⟩
  | char c =>
    -- Three characters are keys of the viewer, and none of them moves it.
    unfold press
    split <;> first | exact ⟨rfl, rfl, rfl, rfl⟩ | contradiction

/-- Drawing leaves the viewer where it is. -/
theorem movedTo_draw (v : Viewer) (width height : Nat) :
    v.MovedTo v.position (v.draw width height).2 :=
  ⟨rfl, rfl, rfl, rfl⟩

end

/-! ## Section 3: All the viewers of a run -/

namespace Later

variable {first v w : Viewer}

theorem keys (h : first.Later v) (keys : List Key) : first.Later (keys.foldl Viewer.press v) := by
  induction keys generalizing v with
  | nil => exact h
  | cons key keys ih => exact ih (h.press key)

/-- Whatever is pressed and drawn, the viewer goes on showing the same run. -/
theorem movedTo (h : first.Later v) : first.MovedTo v.position v := by
  induction h with
  | self => exact ⟨rfl, rfl, rfl, rfl⟩
  | @press v _ key ih =>
    have hpress := movedTo_press v key
    rw [hpress.position]
    exact ih.trans hpress
  | @draw v _ width height ih =>
    have hdraw := movedTo_draw v width height
    rw [hdraw.position]
    exact ih.trans hdraw

/-- No viewer is led out of its trace. An empty trace keeps it where it begins. -/
theorem position_le (h : first.Later v) (hfirst : first.position ≤ first.trace.size - 1) :
    v.position ≤ first.trace.size - 1 := by
  -- The bound stays the same all along, since the trace does; only a key has to be looked at.
  induction h with
  | self => exact hfirst
  | press h key ih =>
    rw [(movedTo_press _ key).position, h.movedTo.trace]
    exact Key.target_le ih key
  | draw _ width height ih =>
    rw [(movedTo_draw _ width height).position]
    exact ih

end Later

/-- Every position that there is can be walked to. -/
theorem exists_later_position {first : Viewer} {position : Nat} (h : position < first.trace.size)
    (hfirst : first.position = 0) : ∃ v, first.Later v ∧ v.position = position := by
  induction position with
  | zero => exact ⟨first, .self, hfirst⟩
  | succ position ih =>
    -- One step forward from the position before, which is not the last one.
    obtain ⟨v, hv, rfl⟩ := ih (by omega)
    refine ⟨v.press .right, hv.press .right, ?_⟩
    rw [(movedTo_press v .right).position, hv.movedTo.trace]
    exact Key.target_right_of_lt h

section

variable {v : Viewer}

/-- A step forward is taken back by a step back. -/
theorem position_left_of_right (h : v.position + 1 < v.trace.size) :
    ((v.press .right).press .left).position = v.position := by
  have hright := movedTo_press v .right
  rw [(movedTo_press _ .left).position, hright.position, hright.trace]
  exact Key.target_left_of_right h

/-- A step back is taken back by a step forward. -/
theorem position_right_of_left (h : v.position ≠ 0) (hsize : v.position < v.trace.size) :
    ((v.press .left).press .right).position = v.position := by
  have hleft := movedTo_press v .left
  rw [(movedTo_press _ .right).position, hleft.position, hleft.trace]
  exact Key.target_right_of_left h hsize

end

/-! ## Section 4: What is shown of the output -/

section

variable {v w : Viewer} {s : Snapshot}

theorem isSome_current : v.current.isSome ↔ v.position < v.trace.size := by
  rw [current, History.get?, Option.isSome_iff_exists]
  constructor
  · rintro ⟨s, hs⟩
    exact (Array.getElem?_eq_some_iff.mp hs).1
  · intro h
    exact ⟨_, Array.getElem?_eq_getElem h⟩

/-- The whole run is over: the last record is on display, if there is one, and no error ended it. -/
def AtEnd (v : Viewer) : Prop :=
  v.trace.size ≤ v.position + 1 ∧ v.error = none

theorem shownSize_of_atEnd (h : v.AtEnd) : v.shownSize = v.output.size := by
  obtain ⟨hlast, herror⟩ := h
  unfold shownSize isLast
  cases v.current with
  | none => rfl
  | some s => simp [hlast, herror]

theorem shownSize_of_current (h : ¬v.AtEnd) (hs : v.current = some s) : v.shownSize = s.outputSize := by
  unfold shownSize isLast
  rw [hs]
  apply if_neg
  simpa [AtEnd] using h

theorem shownSize_of_no_record (h : v.current = none) : v.shownSize = v.output.size := by
  unfold shownSize
  rw [h]

/-- No more of the output is shown than there is. -/
theorem shownSize_le (h : Traced v.trace v.output) : v.shownSize ≤ v.output.size := by
  by_cases hend : v.AtEnd
  · exact Nat.le_of_eq (shownSize_of_atEnd hend)
  · cases hs : v.current with
    | none => exact Nat.le_of_eq (shownSize_of_no_record hs)
    | some s =>
      rw [shownSize_of_current hend hs]
      exact h.outputSize_le hs

/-- What is shown of the output grows along the trace. -/
theorem shownSize_mono (h : Traced v.trace v.output) (hw : v.MovedTo w.position w)
    (hle : v.position ≤ w.position) : v.shownSize ≤ w.shownSize := by
  -- If the second viewer shows all, there is nothing to compare.
  have hall : w.shownSize = w.output.size → v.shownSize ≤ w.shownSize := by
    intro hw'
    rw [hw', hw.output]
    exact shownSize_le h
  by_cases hend : w.AtEnd
  · exact hall (shownSize_of_atEnd hend)
  · cases ht : w.current with
    | none => exact hall (shownSize_of_no_record ht)
    | some t =>
      -- The first viewer is no nearer to the end than the second one, and so both show what a record tells.
      have hbefore : ¬v.AtEnd := by
        rintro ⟨hlast, herror⟩
        apply hend
        refine ⟨?_, hw.error.trans herror⟩
        rw [hw.trace]
        exact hlast.trans (Nat.add_le_add_right hle 1)
      have hposition : w.position < w.trace.size := isSome_current.mp (by rw [ht]; rfl)
      rw [hw.trace] at hposition
      obtain ⟨s, hs⟩ := Option.isSome_iff_exists.mp
        (isSome_current.mpr (Nat.lt_of_le_of_lt hle hposition))
      rw [current, hw.trace] at ht
      have hrecords := h.outputSize_mono hle hs ht
      rw [← hw.trace] at ht
      rwa [shownSize_of_current hbefore hs, shownSize_of_current hend ht]

end

end Viewer

/-! ## Section 5: The viewers of a run -/

/-- A viewer of a run, well ended or not, stays in its trace whatever keys are pressed and however often it
is drawn. Its position is zero in an empty trace and below the size of any other, and so there is a record
on display unless there are none at all. A step forward from before the last record and a step back
take each other back, and so do a step back from behind the first record and a step forward. The output
that is shown is a first part of it, all of it at the end of a run without an error, and from one
position to a later one it does not become less; every position can be walked to. -/
theorem viewers_stay_in_the_trace {history : History} {output : Output} (h : Traced history output)
    (source : String) (error : Option String) (v : Viewer)
    (hv : (Viewer.ofRun history output source error).Later v) :
    (history.size = 0 → v.position = 0) ∧ (0 < history.size → v.position < history.size) ∧
      v.current = history.get? v.position ∧ (v.current.isSome ↔ 0 < history.size) ∧
      (v.position + 1 < history.size →
        ((v.press .right).press .left).position = v.position) ∧
      (v.position ≠ 0 → ((v.press .left).press .right).position = v.position) ∧
      v.shownSize ≤ output.size ∧
      (error = none → history.size ≤ v.position + 1 → v.shownSize = output.size) ∧
      (∀ w, (Viewer.ofRun history output source error).Later w →
        v.position ≤ w.position → v.shownSize ≤ w.shownSize) ∧
      ∀ position < history.size, ∃ w, (Viewer.ofRun history output source error).Later w ∧
        w.position = position := by
  have hsame := hv.movedTo
  have htrace : v.trace = history := hsame.trace
  have houtput : v.output = output := hsame.output
  have hle : v.position ≤ history.size - 1 := hv.position_le (Nat.zero_le _)
  have hinside : 0 < history.size → v.position < history.size := by omega
  have hruns : Traced v.trace v.output := by rwa [htrace, houtput]
  refine ⟨by omega, hinside, ?_, ?_, ?_, ?_, ?_, ?_, ?_, ?_⟩
  · rw [Viewer.current, htrace]
  · rw [Viewer.isSome_current, htrace]
    exact ⟨Nat.zero_lt_of_lt, hinside⟩
  · intro hbefore
    apply Viewer.position_left_of_right
    rwa [htrace]
  · intro hbehind
    apply Viewer.position_right_of_left hbehind
    rw [htrace]
    exact hinside (by omega)
  · rw [← houtput]
    exact Viewer.shownSize_le hruns
  · intro herror hlast
    rw [← houtput]
    apply Viewer.shownSize_of_atEnd
    exact ⟨by rwa [htrace], hsame.error.trans herror⟩
  · intro w hw hvw
    exact Viewer.shownSize_mono hruns (hsame.beside hw.movedTo) hvw
  · intro position hposition
    exact Viewer.exists_later_position hposition rfl

/-- A session with a program that prints twice, and its trace of two records. -/
def printedTwice : Execution :=
  Session.executeProgram printsTwice [] ⟨some 3, 0, some 216⟩ false

/-- The viewer of that session after six keys is at the last record and shows both bytes, while the one
at the first record shows none. -/
theorem viewers_stay_in_the_trace_printedTwice :
    ∃ history, printedTwice.trace = some history ∧ printedTwice.failure = none ∧
      history.size = 2 ∧
      let first := Viewer.ofRun history printedTwice.output "" none
      let last := [Key.left, .right, .right, .tab, .home, .finish].foldl Viewer.press first
      last.position = 1 ∧ last.current.isSome ∧
        ((last.press .left).press .right).position = last.position ∧
        first.shownSize = 0 ∧ last.shownSize = 2 ∧ first.shownSize ≤ last.shownSize := by
  obtain ⟨history, hhistory⟩ : ∃ history, printedTwice.trace = some history := ⟨_, rfl⟩
  have hsize : history.size = 2 := by
    cases hhistory
    rfl
  refine ⟨history, hhistory, rfl, hsize, ?_⟩
  intro first last
  have hlast : first.Later last := Viewer.Later.keys .self _
  have hfirst : first.position = 0 := rfl
  obtain ⟨-, -, -, -, -, -, -, -, hmono, -⟩ := viewers_stay_in_the_trace
    (Session.traced_of_executeProgram hhistory) "" none first .self
  obtain ⟨-, -, -, hsome, -, hback, -, hall, -, -⟩ := viewers_stay_in_the_trace
    (Session.traced_of_executeProgram hhistory) "" none last hlast
  have hposition : last.position = 1 := by
    cases hhistory
    rfl
  refine ⟨hposition, hsome.mpr (by omega), hback (by omega), ?_, hall rfl (by omega), ?_⟩
  · cases hhistory
    rfl
  · exact hmono last hlast (by omega)

end Stepwise
