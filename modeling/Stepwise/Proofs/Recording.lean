import Mathlib.Algebra.GroupWithZero.Nat
import Stepwise.Proofs.Course
import Stepwise.Proofs.ScopeTree

/-!
# What a trace tells about the runs behind it

A record shows a run as it was when a statement was arrived at. This module looks at a whole trace,
after any number of runs of one runner, well ended or not: its records come in the order of the steps
at which they were taken, each of them shows a first part of what has been printed by now and the
scopes from the current one out to the root, and the bytes that they are counted with stay within the
budget.

Records are only ever added when a statement is arrived at, and so each of them is followed back to
the point of a run where it was taken.

## Main results

* `Machine.Rooted.depths_view`: what a record shows of the scopes.
* `Machine.Chronicle.arrive`: what arriving at a statement does to a trace.
* `traces_are_orderly`: all of this for every trace.
-/

namespace Stepwise

open Machine Exec

/-! ## Section 1: The scopes in view -/

/-- The scopes alive form a chain that ends at the root. -/
structure Machine.Rooted (m : Machine) : Prop extends Machine.Linear m where
  root : m.store.parent? 0 = some none

namespace Store

variable {store : Store}

/-- In a chain each scope leads to all that were created before it. -/
theorem outward_of_linear (hroot : store.parent? 0 = some none) {id : Nat}
    (hparent : ∀ k < id, store.parent? (k + 1) = some (some k)) :
    store.Outward id (List.range (id + 1)).reverse := by
  induction id with
  | zero => exact .root hroot
  | succ id ih =>
    rw [List.range_succ, List.reverse_append]
    exact .inner (hparent id (Nat.lt_succ_self id)) (ih fun k hk => hparent k (Nat.lt_succ_of_lt hk))

/-- A record shows every scope that is alive under its own index. -/
theorem map_depth_filterMap_view {ids : List Nat} (h : ∀ id ∈ ids, id < store.depth) :
    (ids.filterMap fun id => store.scopes[id]?.map (·.view id)).map ScopeView.depth = ids := by
  induction ids with
  | nil => rfl
  | cons id ids ih =>
    obtain ⟨scope, hscope⟩ : ∃ scope, store.scopes[id]? = some scope :=
      ⟨_, Array.getElem?_eq_getElem (h id List.mem_cons_self)⟩
    rw [List.filterMap_cons, hscope]
    exact congrArg (id :: ·) (ih fun id' hid' => h id' (List.mem_cons_of_mem _ hid'))

end Store

namespace Machine

variable {m m' : Machine}

/-- What a record shows of the scopes: all of them, from the current one out to the root. -/
theorem Rooted.depths_view (h : m.Rooted) :
    (m.store.view m.scope).map ScopeView.depth = (List.range (m.scope + 1)).reverse := by
  have hcurrent := h.current
  have hids : m.store.Outward m.scope (List.range (m.scope + 1)).reverse := by
    apply Store.outward_of_linear h.root
    intro k hk
    exact h.parent k (by omega)
  have hchain : m.store.chain? m.scope = some (List.range (m.scope + 1)).reverse := by
    apply Store.chainWithin?_eq_some_iff.mpr
    refine ⟨hids, ?_⟩
    rw [List.length_reverse, List.length_range]
    omega
  rw [Store.view, hchain]
  exact Store.map_depth_filterMap_view hids.lt_depth

theorem Frame.rooted (h : m.Frame m') (hm : m.Rooted) : m'.Rooted :=
  ⟨h.linear hm.toLinear, (h.parent 0).trans hm.root⟩

theorem rooted_opened (h : m.Rooted) : m.opened.Rooted :=
  ⟨linear_opened h.toLinear, (Store.parent?_push_of_lt m.scope h.depth_pos).trans h.root⟩

/-- A change of what the scopes are not about. -/
theorem Rooted.of_eq (h : m.Rooted) (hstore : m'.store = m.store) (hscope : m'.scope = m.scope) :
    m'.Rooted := by
  refine ⟨⟨fun id hid => ?_, ?_⟩, ?_⟩
  · rw [hstore] at hid ⊢
    exact h.parent id hid
  · rw [hstore, hscope]
    exact h.current
  · rw [hstore]
    exact h.root

end Machine

theorem rooted_of_statement {ctx : Context} {credit : Nat} {m m' : Machine} {halt : Option Halt}
    (h : (frameDiscipline ctx).statement credit m halt m') (hm : m.Rooted) : m'.Rooted :=
  (h hm.depth_pos).1.rooted hm

/-- What evaluation begins, it begins on a chain that ends at the root. -/
theorem Begins.rooted {ctx : Context} {a b : Activity} (h : Begins ctx a b)
    (ha : a.machine.Rooted) : b.machine.Rooted := by
  rcases h.cases (frameDiscipline ctx) with hsame | ⟨m, hm, hb⟩ | ⟨routine, args, -, m, -, -, ht, hb⟩
  · -- It begins on a machine that the statements before it have left.
    exact rooted_of_statement hsame ha
  · have hm : m.Rooted := rooted_of_statement ((frameDiscipline ctx).value_statement hm) ha
    -- It begins in a new scope.
    rw [hb]
    exact (rooted_opened hm).of_eq rfl rfl
  · -- It is the body of a call, whose scope lies in the caller's and has the parameters.
    rw [eq_of_tick ht] at hb
    have hcalled : (a.machine.called routine.name).Rooted := ha.of_eq rfl rfl
    have hparams : Obeys ((frameDiscipline ctx).statement 0) (bindParams routine.params args) :=
      (frameDiscipline ctx).obeys_bindParams routine.params args
    exact rooted_of_statement (hparams.of_ok hb) ((rooted_opened hcalled).of_eq rfl rfl)

namespace Runner

theorem rooted_runGlobals {ctx : Context} {budget : Nat} {nodes : List Node} {m : Machine}
    (h : m.Rooted) : (final (runGlobals ctx budget nodes m)).Rooted :=
  rooted_of_statement ((frameDiscipline ctx).obeys_runGlobals budget nodes m) h

theorem rooted_runWithin {r : Runner} (budget : Nat) (h : r.machine.Rooted) :
    (r.runWithin budget).2.machine.Rooted := by
  cases hmain : r.program.find? mainName with
  | none =>
    rw [runWithin_of_no_main hmain]
    exact h
  | some main =>
    rw [(runWithin_of_main hmain budget).2]
    have hclosed : Change.Closed fun m _ m' => m.Rooted → m'.Rooted :=
      ⟨fun _ h => h, fun h h' hm => h' (h hm)⟩
    refine Exec.Obeys.whole hclosed (fun m hm => rooted_runGlobals hm) (fun m hm => ?_)
      (fun event m hm => hm.of_eq rfl rfl) (fun m _ _ _ hm => hm.of_eq rfl rfl) r.machine h
    exact rooted_of_statement ((frameDiscipline r.context).obeys_exec
      ((frameDiscipline r.context).obeys_enter budget) (Nat.zero_le budget) main.body m) hm

theorem rooted_ofProgram (program : Program) (inputs : List Int32) (limits : Limits)
    (logged : Bool) : (ofProgram program inputs limits logged).machine.Rooted :=
  ⟨linear_ofProgram program inputs limits logged, rfl⟩

theorem Later.rooted {r r' : Runner} (h : r.Later r') (hr : r.machine.Rooted) :
    r'.machine.Rooted := by
  induction h with
  | self => exact hr
  | again _ budget ih => exact rooted_runWithin budget ih

theorem Visits.rooted {r : Runner} {budget : Nat} {a : Activity} (h : r.Visits budget a)
    (hr : r.machine.Rooted) : a.machine.Rooted := by
  obtain ⟨start, calls, hstart, hreaches⟩ := h
  refine hreaches.invariant Begins.rooted ?_
  cases hstart with
  | @global main before after node m hmain hglobals hbefore =>
    have hm : (final (runGlobals r.context budget before r.machine)).Rooted := rooted_runGlobals hr
    rwa [final_of_ok hbefore] at hm
  | @main main m hmain hglobals =>
    have hm : (final (runGlobals r.context budget r.program.globals r.machine)).Rooted :=
      rooted_runGlobals hr
    rw [final_of_ok hglobals] at hm
    exact hm.of_eq rfl rfl

end Runner

/-! ## Section 2: Arriving at a statement -/

namespace History

/-- The bytes of the records are counted right, and within the budget. -/
structure Balanced (history : History) : Prop where
  used : history.used = (history.snapshots.toList.map Snapshot.cost).sum
  within : history.used ≤ history.limit

variable {history history' : History} {s : Snapshot}

theorem push_eq_ok (h : history.push s = .ok history') :
    history.needed s ≤ history.limit ∧ history' = history.add s := by
  unfold push at h
  dsimp only at h
  split at h
  · cases h
  · next hfits =>
    cases h
    exact ⟨Nat.not_lt.mp hfits, rfl⟩

theorem Balanced.push (h : history.Balanced) (hpush : history.push s = .ok history') :
    history'.Balanced := by
  obtain ⟨hfits, rfl⟩ := push_eq_ok hpush
  refine ⟨?_, hfits⟩
  simp only [add, Array.toList_push, List.map_append, List.sum_append, h.used, List.map_cons,
    List.map_nil, List.sum_singleton]

end History

namespace Machine

/-- The records of the trace; a machine without a trace has none. -/
def records (m : Machine) : List Snapshot :=
  match m.history with
  | none => []
  | some history => history.snapshots.toList

theorem records_of_history {m : Machine} {history : History} (h : m.history = some history) :
    m.records = history.snapshots.toList := by
  unfold records
  rw [h]

/-- The machine on which a statement is recorded: its place has been taken over and its step has been
counted. -/
def reached (node : Node) (m : Machine) : Machine :=
  { m with loc := node.loc?.getD m.loc, steps := m.steps + 1 }

end Machine

/-- Adding a record is pushing it on the trace. -/
theorem record_eq (label : String) {m : Machine} {history : History}
    (h : m.history = some history) :
    record label m = match history.push (snapshot label m) with
      | .error needed => .error (.fault (.traceMemory needed history.limit)) m
      | .ok history' => .ok () { m with history := some history' } := by
  unfold record History.push
  rw [h]
  dsimp only
  split <;> rfl

theorem tick_cases (ctx : Context) (m : Machine) :
    (∃ n, tick ctx m = .error (.fault (.stepLimit n m.loc)) { m with steps := m.steps + 1 }) ∨
      tick ctx m = .ok () { m with steps := m.steps + 1 } := by
  rw [tick_apply]
  split
  · exact .inr rfl
  · split
    · exact .inl ⟨_, rfl⟩
    · exact .inr rfl

/-- What arriving at a statement does under a trace: its step may exceed the limit, and otherwise its
record is pushed on the trace. -/
theorem arrive_cases (ctx : Context) (node : Node) {m : Machine} {history : History}
    (hhistory : m.history = some history) :
    (∃ n loc, arrive ctx node m = .error (.fault (.stepLimit n loc)) (m.reached node)) ∨
    (∃ needed, history.push (snapshot node.label (m.reached node)) = .error needed ∧
      arrive ctx node m =
        .error (.fault (.traceMemory needed history.limit)) (m.reached node)) ∨
    ∃ history', history.push (snapshot node.label (m.reached node)) = .ok history' ∧
      arrive ctx node m = .ok () { m.reached node with history := some history' } := by
  have hreached : (m.reached node).history = some history := hhistory
  rw [arrive_eq]
  rcases tick_cases ctx { m with loc := node.loc?.getD m.loc } with ⟨n, htick⟩ | htick
  · -- The step is one too many, and nothing is recorded.
    refine .inl ⟨n, node.loc?.getD m.loc, ?_⟩
    simp only [bind, EStateM.bind, htick]
    rfl
  · -- The step is counted, and its record fits or does not.
    rw [bind_of_ok htick]
    have hrecord := record_eq node.label hreached
    cases hpush : history.push (snapshot node.label (m.reached node)) with
    | error needed =>
      rw [hpush] at hrecord
      exact .inr (.inl ⟨needed, rfl, hrecord⟩)
    | ok history' =>
      rw [hpush] at hrecord
      exact .inr (.inr ⟨history', rfl, hrecord⟩)

/-! ## Section 3: Whole traces -/

/-- From the first machine to the second the record `s` has been added, and it shows the first one. -/
structure Machine.Records (m m' : Machine) (s : Snapshot) : Prop where
  added : m'.records = m.records ++ [s]
  outputSize : s.outputSize = m.output.size
  scopes : s.scopes.map ScopeView.depth = (List.range (m.scope + 1)).reverse

/-- A trace as it should be, if `T` tells on which machines statements have been arrived at. -/
structure Machine.Chronicle (limit : Nat) (T : Machine → Machine → Prop) (m : Machine) : Prop where
  history : ∃ history, m.history = some history ∧ history.limit = limit ∧ history.Balanced
  ordered : m.records.Pairwise fun s t => s.step < t.step ∧ s.outputSize ≤ t.outputSize
  behind (s : Snapshot) (hs : s ∈ m.records) : s.step ≤ m.steps ∧ s.outputSize ≤ m.output.size
  taken (before : List Snapshot) (s : Snapshot) (h : before ++ [s] <+: m.records) :
    ∃ m₀ m₁, T m₀ m₁ ∧ m₀.Records m₁ s ∧ m₀.records = before ∧
      m₀.output.bytes.toList <+: m.output.bytes.toList

theorem Machine.Grown.size_le {m m' : Machine} (h : m.Grown m') : m.output.size ≤ m'.output.size := by
  have hlength := h.output.length_le
  simpa [Output.size] using hlength

namespace Machine.Chronicle

variable {limit : Nat} {T T' : Machine → Machine → Prop} {m m' : Machine}

theorem mono (hT : ∀ m m', T m m' → T' m m') (h : m.Chronicle limit T) : m.Chronicle limit T' where
  history := h.history
  ordered := h.ordered
  behind := h.behind
  taken before s hs := by
    obtain ⟨m₀, m₁, hm, hrest⟩ := h.taken before s hs
    exact ⟨m₀, m₁, hT m₀ m₁ hm, hrest⟩

/-- A trace stays as it should be while nothing is added to it. -/
theorem grown (h : m.Chronicle limit T) (hhistory : m'.history = m.history) (hgrown : m.Grown m') :
    m'.Chronicle limit T := by
  have hrecords : m'.records = m.records := by
    unfold records
    rw [hhistory]
  refine ⟨hhistory ▸ h.history, hrecords ▸ h.ordered, fun s hs => ?_, fun before s hs => ?_⟩
  · obtain ⟨hstep, hsize⟩ := h.behind s (hrecords ▸ hs)
    exact ⟨hstep.trans hgrown.steps, hsize.trans hgrown.size_le⟩
  · obtain ⟨m₀, m₁, hm, hs, hbefore, houtput⟩ := h.taken before s (hrecords ▸ hs)
    exact ⟨m₀, m₁, hm, hs, hbefore, houtput.trans hgrown.output⟩

/-- A trace stays as it should be if the record of a later step is added to it. -/
theorem recorded (h : m.Chronicle limit T) {s : Snapshot} (hs : m.Records m' s)
    (hhistory : ∃ history, m'.history = some history ∧ history.limit = limit ∧ history.Balanced)
    (hlater : m.steps < s.step) (hstep : s.step ≤ m'.steps) (houtput : m'.output = m.output)
    (hT : T m m') : m'.Chronicle limit T := by
  refine ⟨hhistory, ?_, fun t ht => ?_, fun before t ht => ?_⟩
  · -- The records before are in order, and the new one comes after each of them.
    rw [hs.added, List.pairwise_append]
    refine ⟨h.ordered, List.pairwise_singleton _ _, fun t ht u hu => ?_⟩
    obtain rfl := List.mem_singleton.mp hu
    obtain ⟨htstep, htsize⟩ := h.behind t ht
    exact ⟨Nat.lt_of_le_of_lt htstep hlater, hs.outputSize ▸ htsize⟩
  · rw [hs.added, List.mem_append, List.mem_singleton] at ht
    rcases ht with ht | rfl
    · obtain ⟨htstep, htsize⟩ := h.behind t ht
      exact ⟨htstep.trans (Nat.le_of_lt (Nat.lt_of_lt_of_le hlater hstep)), houtput ▸ htsize⟩
    · exact ⟨hstep, houtput ▸ Nat.le_of_eq hs.outputSize⟩
  · -- The last record is the new one, and the others were taken before.
    rw [hs.added, List.prefix_concat_iff] at ht
    rw [houtput]
    rcases ht with hlast | hold
    · obtain ⟨rfl, hts⟩ := List.append_inj' hlast rfl
      obtain rfl := List.singleton_inj.mp hts
      exact ⟨m, m', hT, hs, rfl, List.prefix_rfl⟩
    · exact h.taken before t hold

/-- A trace stays as it should be when a statement is arrived at. The new record is later than the
others because its step is counted before it is taken. -/
theorem arrive (h : m.Chronicle limit T) (hm : m.Rooted) {ctx : Context} {node : Node}
    (hT : ∀ m₁, Exec.arrive ctx node m = .ok () m₁ → T m m₁) :
    (final (Exec.arrive ctx node m)).Chronicle limit T := by
  obtain ⟨history, hhistory, rfl, hbalanced⟩ := h.history
  have hreached : (m.reached node).Chronicle history.limit T :=
    h.grown rfl ⟨List.prefix_rfl, Nat.le_succ _⟩
  rcases arrive_cases ctx node hhistory with ⟨n, loc, harrive⟩ | ⟨needed, -, harrive⟩ |
    ⟨history', hpush, harrive⟩
  · rw [harrive]
    exact hreached
  · rw [harrive]
    exact hreached
  · have hT := hT _ harrive
    rw [harrive]
    have hbalanced' := hbalanced.push hpush
    obtain ⟨-, rfl⟩ := History.push_eq_ok hpush
    generalize hm₁ : ({ m.reached node with
      history := some (history.add (snapshot node.label (m.reached node))) } : Machine) = m₁ at hT
    have hrecords : m.Records m₁ (snapshot node.label (m.reached node)) := by
      refine ⟨?_, rfl, hm.depths_view⟩
      rw [← hm₁, records_of_history hhistory]
      exact Array.toList_push
    subst hm₁
    exact h.recorded hrecords ⟨_, rfl, rfl, hbalanced'⟩ (Nat.lt_succ_self _) (Nat.le_refl _) rfl hT

end Machine.Chronicle

/-! ## Section 4: The traces of runs -/

namespace Runner

/-- One of the runs between two runners has arrived at a statement on the machine `m`, and has gone on
with the machine `m'`. -/
def Arrives (first last : Runner) (m m' : Machine) : Prop :=
  ∃ r budget b node, first.Later r ∧ (r.runWithin budget).2.Later last ∧
    r.Visits budget ⟨b, .statement node, m⟩ ∧ arrive r.context node m = .ok () m'

theorem Arrives.again {first last : Runner} {m m' : Machine} (h : first.Arrives last m m')
    (budget : Nat) : first.Arrives (last.runWithin budget).2 m m' := by
  obtain ⟨r, budget', b, node, hr, hlast, hrest⟩ := h
  exact ⟨r, budget', b, node, hr, hlast.again budget, hrest⟩

/-- A run keeps its trace as it should be. -/
theorem keeps_chronicle {first r : Runner} {limit : Nat} (hr : first.Later r) (budget : Nat)
    (hrooted : r.machine.Rooted) :
    Keeps r.context (r.Visits budget)
      (Machine.Chronicle limit (first.Arrives (r.runWithin budget).2)) where
  begins ha hc := ha.begins hc
  quiet hm h := hm.grown h.history h.grown
  marks := by
    intro a m m' ha hm h
    cases h with
    | arrive =>
      exact hm.arrive (ha.rooted hrooted) fun m₁ h => ⟨r, budget, _, _, hr, .self, ha, h⟩
    | @deliver b loc target targets key m₀ _ hslot =>
      -- Reading an integer adds no record.
      rcases deliver_cases loc key m with ⟨halt, hread⟩ | ⟨value, rest, -, hread⟩ <;> rw [hread]
      · exact hm
      · exact hm.grown rfl ⟨List.prefix_rfl, Nat.le_refl _⟩

theorem Later.chronicle {program : Program} {inputs : List Int32} {maxSteps : Option Nat}
    {depth limit : Nat} {logged : Bool} {r : Runner}
    (h : (ofProgram program inputs ⟨maxSteps, depth, some limit⟩ logged).Later r) :
    r.machine.Chronicle limit
      ((ofProgram program inputs ⟨maxSteps, depth, some limit⟩ logged).Arrives r) := by
  induction h with
  | self =>
    exact ⟨⟨.empty limit, rfl, rfl, rfl, Nat.zero_le _⟩, .nil, nofun,
      fun before s hs => absurd (List.prefix_nil.mp hs) (by simp)⟩
  | again h budget ih =>
    have hrooted := h.rooted (rooted_ofProgram program inputs _ logged)
    exact keeps_runWithin (keeps_chronicle h budget hrooted) (ih.mono fun _ _ h => h.again budget)

end Runner

/-- Every trace is orderly, after any number of runs and however they ended. The steps of its records
increase, and what they show of the output does not become less. The k-th record was added when one of
the runs had added k others and arrived at a statement; it shows the scopes from the one that was
current there out to the root, and what had been printed there is still what the output begins with.
The bytes that the records are counted with are within the budget. A record that does not fit leaves
the trace as it is, and a run that ends with it leaves a trace that has no room for it. -/
theorem traces_are_orderly (program : Program) (inputs : List Int32) (maxSteps : Option Nat)
    (depth limit : Nat) (logged : Bool) (r : Runner)
    (hr : (Runner.ofProgram program inputs ⟨maxSteps, depth, some limit⟩ logged).Later r) :
    ∃ history, r.machine.history = some history ∧
      history.snapshots.toList.Pairwise (fun s t => s.step < t.step) ∧
      history.snapshots.toList.Pairwise (fun s t => s.outputSize ≤ t.outputSize) ∧
      (∀ k s, history.get? k = some s → s.outputSize ≤ r.machine.output.size ∧
        ∃ m m', (Runner.ofProgram program inputs ⟨maxSteps, depth, some limit⟩ logged).Arrives r m m' ∧
          m'.records = m.records ++ [s] ∧ m.records.length = k ∧
          s.scopes.map ScopeView.depth = (List.range (m.scope + 1)).reverse ∧
          m.output.bytes.toList = r.machine.output.bytes.toList.take s.outputSize) ∧
      history.limit = limit ∧
      history.used = (history.snapshots.toList.map Snapshot.cost).sum ∧ history.used ≤ limit ∧
      (∀ ctx node m kept needed, m.history = some kept →
        kept.push (snapshot node.label (m.reached node)) = .error needed →
          (final (arrive ctx node m)).history = some kept) ∧
      ∀ budget needed limit',
        (r.runWithin budget).1 = .error (.fault (.traceMemory needed limit')) → limit' = limit ∧
          ∃ kept s, (r.runWithin budget).2.machine.history = some kept ∧
            kept.push s = .error needed := by
  have hchronicle := hr.chronicle
  obtain ⟨history, hhistory, hlimit, hbalanced⟩ := hchronicle.history
  have hrecords := records_of_history hhistory
  have hordered := hchronicle.ordered
  rw [hrecords] at hordered
  refine ⟨history, hhistory, hordered.imp And.left, hordered.imp And.right, ?_, hlimit,
    hbalanced.used, hlimit ▸ hbalanced.within, ?_, ?_⟩
  · -- The record at index `k` was taken when there were `k` others.
    intro k s hs
    have hs : history.snapshots.toList[k]? = some s := by simpa [History.get?] using hs
    have hk : k < history.snapshots.toList.length := (List.getElem?_eq_some_iff.mp hs).1
    have hbefore : history.snapshots.toList.take k ++ [s] <+: r.machine.records := by
      rw [hrecords]
      have htake := List.take_prefix (k + 1) history.snapshots.toList
      rwa [List.take_add_one, hs] at htake
    obtain ⟨m, m', harrives, hshown, hm, houtput⟩ := hchronicle.taken _ s hbefore
    refine ⟨(hchronicle.behind s ?_).2, m, m', harrives, hshown.added, ?_, hshown.scopes, ?_⟩
    · rw [hrecords]
      exact List.mem_of_getElem? hs
    · rw [hm, List.length_take, Nat.min_eq_left (Nat.le_of_lt hk)]
    · rw [hshown.outputSize]
      exact List.prefix_iff_eq_take.mp houtput
  · intro ctx node m kept needed hkept hpush
    rcases arrive_cases ctx node hkept with ⟨n, loc, harrive⟩ | ⟨_, -, harrive⟩ | ⟨_, hfits, -⟩
    · rw [harrive]
      exact hkept
    · rw [harrive]
      exact hkept
    · cases hpush.symm.trans hfits
  · intro budget needed limit' hstopped
    obtain ⟨kept, s, hkept, rfl, hpush⟩ := Runner.trueOf_runWithin hstopped
    -- The trace at the end of this run is one under the same budget.
    obtain ⟨kept', hkept', hlimit', -⟩ := (hr.again budget).chronicle.history
    obtain rfl : kept' = kept := Option.some.inj (hkept'.symm.trans hkept)
    exact ⟨hlimit', kept', s, hkept, hpush⟩

/-- A second run of a program that prints twice, with a trace that holds two records. -/
def printedAgain : Except Halt Unit × Runner :=
  ((Runner.ofProgram printsTwice [] ⟨none, 0, some 216⟩ false).runWithin 3).2.runWithin 3

/-- The second run is stopped at its first statement, and the trace is still that of the first one. -/
theorem traces_are_orderly_printedAgain :
    printedAgain.1 = .error (.fault (.traceMemory 324 216)) ∧
      printedAgain.2.machine.records.map (fun s => (s.step, s.outputSize)) = [(1, 0), (2, 1)] ∧
      ∃ history, printedAgain.2.machine.history = some history ∧
        history.snapshots.toList.Pairwise (fun s t => s.step < t.step) ∧ history.used ≤ 216 ∧
        ∀ s, history.get? 1 = some s → ∃ m m',
          (Runner.ofProgram printsTwice [] ⟨none, 0, some 216⟩ false).Arrives printedAgain.2 m m' ∧
          m.output.bytes.toList = printedAgain.2.machine.output.bytes.toList.take s.outputSize := by
  have hlater : (Runner.ofProgram printsTwice [] ⟨none, 0, some 216⟩ false).Later printedAgain.2 :=
    .again (.again .self 3) 3
  refine ⟨rfl, rfl, ?_⟩
  obtain ⟨history, hhistory, hsteps, -, htaken, -, -, hused, -, -⟩ :=
    traces_are_orderly printsTwice [] none 0 216 false printedAgain.2 hlater
  refine ⟨history, hhistory, hsteps, hused, fun s hs => ?_⟩
  obtain ⟨-, m, m', harrives, -, -, -, houtput⟩ := htaken 1 s hs
  exact ⟨m, m', harrives, houtput⟩

end Stepwise
