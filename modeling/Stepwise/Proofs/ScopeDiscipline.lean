import Stepwise.Proofs.Activity
import Stepwise.Proofs.Discipline

/-!
# Scopes and frames

Blocks and calls create scopes, and calls change the function that runs and how deeply calls are
nested. All of this is undone when they end, be it well, early or by a fault. This module states what
evaluation leaves as it was as a discipline, and concludes that the scopes alive always form a chain:
each of them lies in the one created before it, and the last one is current.

## Main results

* `frameDiscipline`: evaluation keeps the frame.
* `Begins.linear`: what evaluation begins, it begins on a chain of scopes.
* `frame_kept_and_scopes_linear`: all of this for every tree, every machine and every run.
-/

namespace Stepwise

open Machine Exec

/-! ## Section 1: The outline of a store -/

namespace Store

/-- The parent of a scope that is alive. -/
def parent? (store : Store) (id : Nat) : Option (Option Nat) :=
  store.scopes[id]?.map Scope.parent

/-- The names declared in a scope that is alive. -/
def declared? (store : Store) (id : Nat) : Option (Std.TreeSet String) :=
  store.scopes[id]?.map Scope.declared

/-- Whether a name is declared in a scope itself. -/
def Declares (store : Store) (id : Nat) (name : String) : Prop :=
  ∃ names, store.declared? id = some names ∧ name ∈ names

variable {store : Store} {id : Nat}

theorem parent?_eq_none (h : store.depth ≤ id) : store.parent? id = none := by
  simp [parent?, Array.getElem?_eq_none h]

theorem declared?_eq_none (h : store.depth ≤ id) : store.declared? id = none := by
  simp [declared?, Array.getElem?_eq_none h]

/-- Writing a slot changes the values of a scope and nothing else. -/
theorem outline_set (store : Store) (at' : Nat) (key : String) (value : Int32) :
    (store.set at' key value).depth = store.depth ∧
      (∀ id, (store.set at' key value).parent? id = store.parent? id) ∧
      ∀ id, (store.set at' key value).declared? id = store.declared? id := by
  unfold set
  split
  · exact ⟨rfl, fun _ => rfl, fun _ => rfl⟩
  · next owner _ =>
    refine ⟨by simp [depth], fun id => ?_, fun id => ?_⟩
    · simp only [parent?, Array.getElem?_modify]
      split <;> cases store.scopes[id]? <;> rfl
    · simp only [declared?, Array.getElem?_modify]
      split <;> cases store.scopes[id]? <;> rfl

/-- Declaring a name neither creates nor releases a scope. -/
theorem depth_declare (store : Store) (at' : Nat) (name : String) :
    (store.declare at' name).depth = store.depth := by
  simp [declare, depth]

/-- Declaring a name leaves the scopes where they lie. -/
theorem parent?_declare (store : Store) (at' : Nat) (name : String) (id : Nat) :
    (store.declare at' name).parent? id = store.parent? id := by
  simp only [declare, parent?, Array.getElem?_modify]
  split <;> cases store.scopes[id]? <;> rfl

/-- A declaration adds its name to one scope. -/
theorem declared?_declare (store : Store) (at' : Nat) (name : String) (id : Nat) :
    (store.declare at' name).declared? id =
      if at' = id then (store.declared? id).map (·.insert name) else store.declared? id := by
  simp only [declare, declared?, Array.getElem?_modify]
  split <;> cases store.scopes[id]? <;> rfl

/-- A new scope is one more. -/
theorem depth_push (store : Store) (parent : Nat) : (store.push parent).depth = store.depth + 1 := by
  simp [push, depth]

/-- The new scope lies in the one it is created in. -/
theorem parent?_push (store : Store) (parent : Nat) :
    (store.push parent).parent? store.depth = some (some parent) := by
  simp [push, parent?, depth]

/-- The scopes that were there lie where they lay. -/
theorem parent?_push_of_lt (parent : Nat) (h : id < store.depth) :
    (store.push parent).parent? id = store.parent? id := by
  simp [push, parent?, Array.getElem?_push_lt h, Array.getElem?_eq_getElem h]

/-- The scopes that were there have the names that they had. -/
theorem declared?_push_of_lt (parent : Nat) (h : id < store.depth) :
    (store.push parent).declared? id = store.declared? id := by
  simp [push, declared?, Array.getElem?_push_lt h, Array.getElem?_eq_getElem h]

/-- The last scope is released, unless it is the root. -/
theorem scopes_pop (h : 1 < store.depth) : store.pop.scopes = store.scopes.pop := by
  unfold pop
  rw [if_pos h]

theorem depth_pop (h : 1 < store.depth) : store.pop.depth = store.depth - 1 := by
  simp [depth, scopes_pop h]

/-- The scopes that are left lie where they lay. -/
theorem parent?_pop (h : 1 < store.depth) (hid : id < store.depth - 1) :
    store.pop.parent? id = store.parent? id := by
  have hlt : id < store.scopes.size - 1 := hid
  rw [parent?, scopes_pop h, Array.getElem?_pop, if_pos hlt, parent?]

/-- The scopes that are left have the names that they had. -/
theorem declared?_pop (h : 1 < store.depth) (hid : id < store.depth - 1) :
    store.pop.declared? id = store.declared? id := by
  have hlt : id < store.scopes.size - 1 := hid
  rw [declared?, scopes_pop h, Array.getElem?_pop, if_pos hlt, declared?]

end Store

/-! ## Section 2: Frames -/

namespace Machine

/-- What evaluation leaves as it was: how many scopes are alive and how they lie in each other, which
of them is current, how deeply calls are nested, and which function runs. -/
structure Frame (m m' : Machine) : Prop where
  depth : m'.store.depth = m.store.depth
  scope : m'.scope = m.scope
  callDepth : m'.callDepth = m.callDepth
  routine : m'.routine = m.routine
  parent (id : Nat) : m'.store.parent? id = m.store.parent? id

/-- In every scope that is alive the same names are declared. -/
def SameNames (m m' : Machine) : Prop :=
  ∀ id, m'.store.declared? id = m.store.declared? id

/-- In the current scope names may have been declared, and in no other. -/
structure AddsNames (m m' : Machine) : Prop where
  others (id : Nat) (h : id ≠ m.scope) : m'.store.declared? id = m.store.declared? id
  current (name : String) : m.store.Declares m.scope name → m'.store.Declares m.scope name

/-- The scopes alive form a chain, each of them in the one before it, and the last one is current. -/
structure Linear (m : Machine) : Prop where
  parent (id : Nat) (h : id + 1 < m.store.depth) : m.store.parent? (id + 1) = some (some id)
  current : m.scope + 1 = m.store.depth

variable {m m' m'' : Machine}

theorem Frame.refl (m : Machine) : m.Frame m :=
  ⟨rfl, rfl, rfl, rfl, fun _ => rfl⟩

theorem Frame.trans (h : m.Frame m') (h' : m'.Frame m'') : m.Frame m'' :=
  ⟨h'.depth.trans h.depth, h'.scope.trans h.scope, h'.callDepth.trans h.callDepth,
    h'.routine.trans h.routine, fun id => (h'.parent id).trans (h.parent id)⟩

/-- A chain of scopes is seen from the frame alone. -/
theorem Frame.linear (h : m.Frame m') (hm : m.Linear) : m'.Linear := by
  refine ⟨fun id hid => ?_, ?_⟩
  · rw [h.parent]
    exact hm.parent id (h.depth ▸ hid)
  · rw [h.scope, h.depth]
    exact hm.current

/-- Declaring nothing is a way to declare in the current scope only. -/
theorem SameNames.addsNames (h : m.SameNames m') : m.AddsNames m' := by
  refine ⟨fun id _ => h id, fun name hname => ?_⟩
  obtain ⟨names, hnames, hmem⟩ := hname
  exact ⟨names, (h m.scope).trans hnames, hmem⟩

/-- Both declare in the same scope, as the first one keeps it current. -/
theorem AddsNames.trans (hscope : m'.scope = m.scope) (h : m.AddsNames m')
    (h' : m'.AddsNames m'') : m.AddsNames m'' := by
  refine ⟨fun id hid => ?_, fun name hname => ?_⟩
  · exact (h'.others id (hscope ▸ hid)).trans (h.others id hid)
  · have hcurrent := h'.current name
    rw [hscope] at hcurrent
    exact hcurrent (h.current name hname)

theorem Linear.depth_pos (h : m.Linear) : 0 < m.store.depth := by
  have := h.current
  omega

/-- A new scope in the current one makes the chain longer. -/
theorem linear_opened (h : m.Linear) : m.opened.Linear := by
  refine ⟨fun id hid => ?_, ?_⟩
  · have hlt : id < m.store.depth := by
      simpa [opened, Store.depth_push] using hid
    have hcurrent := h.current
    rcases Nat.lt_or_ge (id + 1) m.store.depth with hold | hnew
    · -- This scope was there before.
      exact (Store.parent?_push_of_lt m.scope hold).trans (h.parent id hold)
    · -- The new scope lies in the one that was current, which was the last.
      obtain rfl : id = m.scope := by omega
      rw [hcurrent]
      exact Store.parent?_push m.store m.scope
  · exact (Store.depth_push m.store m.scope).symm

end Machine

/-! ## Section 3: The discipline of frames -/

/-- What an expression may do: it keeps the frame and declares nothing. -/
def KeepsNames : Change := fun m _ m' =>
  0 < m.store.depth → m.Frame m' ∧ m.SameNames m'

/-- What a statement may do: it keeps the frame and declares names in the current scope only. -/
def DeclaresHere : Change := fun m _ m' =>
  0 < m.store.depth → m.Frame m' ∧ m.AddsNames m'

/-- What keeps the frame keeps it also one thing after the other. -/
theorem keepsNames_closed : KeepsNames.Closed where
  refl m _ := ⟨.refl m, fun _ => rfl⟩
  trans h h' hdepth := by
    obtain ⟨hframe, hnames⟩ := h hdepth
    obtain ⟨hframe', hnames'⟩ := h' (hframe.depth ▸ hdepth)
    exact ⟨hframe.trans hframe', fun id => (hnames' id).trans (hnames id)⟩

/-- The current scope stays current, so that statements in a row declare in one scope. -/
theorem declaresHere_closed : DeclaresHere.Closed where
  refl m _ := ⟨.refl m, SameNames.addsNames fun _ => rfl⟩
  trans h h' hdepth := by
    obtain ⟨hframe, hnames⟩ := h hdepth
    obtain ⟨hframe', hnames'⟩ := h' (hframe.depth ▸ hdepth)
    exact ⟨hframe.trans hframe', hnames.trans hframe.scope hnames'⟩

/-- What an expression may do, a statement may do. -/
theorem declaresHere_of_keepsNames {m m' : Machine} {halt : Option Halt}
    (h : KeepsNames m halt m') : DeclaresHere m halt m' := by
  intro hdepth
  obtain ⟨hframe, hnames⟩ := h hdepth
  exact ⟨hframe, hnames.addsNames⟩

/-- A change of what the frame is not about. -/
theorem keepsNames_of_eq {m m' : Machine} {halt : Option Halt} (hstore : m'.store = m.store)
    (hscope : m'.scope = m.scope) (hcallDepth : m'.callDepth = m.callDepth)
    (hroutine : m'.routine = m.routine) : KeepsNames m halt m' := by
  intro _
  refine ⟨⟨?_, hscope, hcallDepth, hroutine, fun id => ?_⟩, fun id => ?_⟩ <;> rw [hstore]

/-- What is done in a new scope leaves nothing behind once the scope is released. -/
theorem keepsNames_closed_of_opened {m m' : Machine} {halt : Option Halt}
    (h : DeclaresHere m.opened halt m') : KeepsNames m halt (m'.closed m.scope) := by
  intro hdepth
  have hopened : m.opened.store.depth = m.store.depth + 1 := Store.depth_push m.store m.scope
  obtain ⟨hframe, hnames⟩ := h (by omega)
  have hdepth' : m'.store.depth = m.store.depth + 1 := hframe.depth.trans hopened
  -- The scope that is released is not the root, which `pop` would keep.
  have hmany : 1 < m'.store.depth := by omega
  have hpopped : (m'.closed m.scope).store.depth = m.store.depth := by
    refine (Store.depth_pop hmany).trans ?_
    omega
  refine ⟨⟨hpopped, rfl, hframe.callDepth, hframe.routine, fun id => ?_⟩, fun id => ?_⟩
  · rcases Nat.lt_or_ge id m.store.depth with hid | hid
    · calc (m'.closed m.scope).store.parent? id
          = m'.store.parent? id := Store.parent?_pop hmany (by omega)
        _ = m.opened.store.parent? id := hframe.parent id
        _ = m.store.parent? id := Store.parent?_push_of_lt m.scope hid
    · rw [Store.parent?_eq_none hid, Store.parent?_eq_none (hpopped ▸ hid)]
  · rcases Nat.lt_or_ge id m.store.depth with hid | hid
    · calc (m'.closed m.scope).store.declared? id
          = m'.store.declared? id := Store.declared?_pop hmany (by omega)
        -- Names have been declared in the new scope only.
        _ = m.opened.store.declared? id := hnames.others id (Nat.ne_of_lt hid)
        _ = m.store.declared? id := Store.declared?_push_of_lt m.scope hid
    · rw [Store.declared?_eq_none hid, Store.declared?_eq_none (hpopped ▸ hid)]

/-- The caller's function and depth of calls are as before the call. -/
theorem keepsNames_returned_of_called {m m' : Machine} {halt : Option Halt} {routine : String}
    (h : KeepsNames (m.called routine) halt m') : KeepsNames m halt (m'.returned m.routine) := by
  intro hdepth
  obtain ⟨hframe, hnames⟩ := h hdepth
  have hcallDepth : m'.callDepth = m.callDepth + 1 := hframe.callDepth
  refine ⟨⟨hframe.depth, hframe.scope, ?_, rfl, hframe.parent⟩, hnames⟩
  show m'.callDepth - 1 = m.callDepth
  rw [hcallDepth, Nat.add_sub_cancel]

/-- An assignment changes values only. -/
theorem keepsNames_save (key : String) (value : Int32) : Obeys KeepsNames (save key value) := by
  intro m _
  obtain ⟨hdepth, hparent, hdeclared⟩ := Store.outline_set m.store m.scope key value
  exact ⟨⟨hdepth, rfl, rfl, rfl, hparent⟩, hdeclared⟩

/-- A declaration adds to the names of the current scope. -/
theorem declaresHere_declare (name : String) : Obeys DeclaresHere (declare name) := by
  intro m _
  refine ⟨⟨Store.depth_declare _ _ _, rfl, rfl, rfl, fun id => Store.parent?_declare _ _ _ id⟩,
    fun id hid => ?_, fun name' hname' => ?_⟩
  · exact (Store.declared?_declare m.store m.scope name id).trans (if_neg (Ne.symm hid))
  · obtain ⟨names, hnames, hmem⟩ := hname'
    refine ⟨names.insert name, ?_, ?_⟩
    · refine (Store.declared?_declare m.store m.scope name m.scope).trans ?_
      rw [if_pos rfl, hnames]
      rfl
    · exact Std.TreeSet.mem_insert.mpr (.inr hmem)

theorem keepsNames_tick (ctx : Context) : Obeys KeepsNames (tick ctx) := by
  intro m
  rw [final_tick]
  exact keepsNames_of_eq rfl rfl rfl rfl

theorem keepsNames_record (label : String) : Obeys KeepsNames (record label) := by
  intro m
  unfold record
  split
  · exact keepsNames_closed.refl m
  · dsimp only
    split <;> exact keepsNames_of_eq rfl rfl rfl rfl

theorem keepsNames_next (loc : Location) : Obeys KeepsNames (next loc) := by
  intro m
  unfold next
  split <;> exact keepsNames_of_eq rfl rfl rfl rfl

theorem keepsNames_print (put : Output → Output) : Obeys KeepsNames (print put) :=
  fun _ => keepsNames_of_eq rfl rfl rfl rfl

/-- Evaluation keeps the frame. -/
def frameDiscipline (ctx : Context) : Discipline ctx where
  value _ := KeepsNames
  statement _ := DeclaresHere
  value_closed _ := keepsNames_closed
  statement_closed _ := declaresHere_closed
  value_statement := declaresHere_of_keepsNames
  value_le _ h := h
  statement_le _ h := h
  fail _ _ _ := keepsNames_closed.refl
  place _ _ _ := keepsNames_of_eq rfl rfl rfl rfl
  tick _ := keepsNames_tick ctx
  record _ := keepsNames_record
  note _ _ _ := keepsNames_of_eq rfl rfl rfl rfl
  save _ := keepsNames_save
  next _ := keepsNames_next
  newline _ := keepsNames_print _
  putByte _ _ := keepsNames_print _
  putInt _ _ := keepsNames_print _
  declare _ := declaresHere_declare
  scope := keepsNames_closed_of_opened
  call _ := keepsNames_returned_of_called
  spend h := .bind keepsNames_closed (keepsNames_tick ctx) fun _ => h
  spendStatement h := .bind declaresHere_closed
    ((keepsNames_tick ctx).mono declaresHere_of_keepsNames) fun _ => h
  spent := .bind keepsNames_closed (keepsNames_tick ctx) fun _ => keepsNames_closed.refl

/-! ## Section 4: The chain of scopes -/

theorem linear_noted {m : Machine} (event : Event) (h : m.Linear) : (m.noted event).Linear :=
  ⟨h.parent, h.current⟩

/-- The body of a block begins on a chain, one scope longer. -/
theorem linear_inside {m : Machine} (h : m.Linear) : m.inside.Linear :=
  linear_noted _ (linear_opened h)

/-- So does the body of a call, whose scope lies in the caller's. -/
theorem linear_insideCall {m : Machine} (routine : Routine) (args : List Int32) (h : m.Linear) :
    (m.insideCall routine args).Linear :=
  linear_inside ⟨h.parent, h.current⟩

/-- A statement leaves a chain of scopes behind. -/
theorem linear_of_statement {ctx : Context} {credit : Nat} {m m' : Machine} {halt : Option Halt}
    (h : (frameDiscipline ctx).statement credit m halt m') (hm : m.Linear) : m'.Linear :=
  (h hm.depth_pos).1.linear hm

/-- So does an expression. -/
theorem linear_of_value {ctx : Context} {credit : Nat} {m m' : Machine} {halt : Option Halt}
    (h : (frameDiscipline ctx).value credit m halt m') (hm : m.Linear) : m'.Linear :=
  linear_of_statement ((frameDiscipline ctx).value_statement h) hm

/-- What evaluation begins, it begins on a chain of scopes. -/
theorem Begins.linear {ctx : Context} {a b : Activity} (h : Begins ctx a b)
    (ha : a.machine.Linear) : b.machine.Linear := by
  rcases h.cases (frameDiscipline ctx) with hsame | ⟨m, hm, hb⟩ | ⟨routine, args, -, m, -, -, ht, hb⟩
  · exact linear_of_statement hsame ha
  · rw [hb]
    exact linear_inside (linear_of_value hm ha)
  · -- The step keeps the chain, the scope of the call extends it, and parameters are declared there.
    have hm := linear_of_value (((frameDiscipline ctx).tick 0).of_ok ht) ha
    have hparams : Obeys ((frameDiscipline ctx).statement 0) (bindParams routine.params args) :=
      (frameDiscipline ctx).obeys_bindParams routine.params args
    exact linear_of_statement (hparams.of_ok hb) (linear_insideCall routine args hm)

/-! ## Section 5: Runs -/

/-- A chain of scopes stays one. -/
def KeepsChain : Change := fun m _ m' => m.Linear → m'.Linear

theorem keepsChain_closed : KeepsChain.Closed :=
  ⟨fun _ h => h, fun h h' hm => h' (h hm)⟩

theorem keepsChain_exec (ctx : Context) (budget : Nat) (node : Node) :
    Obeys KeepsChain (exec ctx (activate ctx budget) budget node) :=
  fun m => linear_of_statement ((frameDiscipline ctx).obeys_exec
    ((frameDiscipline ctx).obeys_enter budget) (Nat.zero_le budget) node m)

/-- The global declarations are statements that run one after the other. -/
theorem keepsChain_runGlobals (ctx : Context) (budget : Nat) (nodes : List Node) :
    Obeys KeepsChain (Runner.runGlobals ctx budget nodes) :=
  fun m => linear_of_statement ((frameDiscipline ctx).obeys_runGlobals budget nodes m)

/-- The globals, main and what is noted between them keep the chain. -/
theorem keepsChain_whole (ctx : Context) (budget : Nat) (main : Routine) :
    Obeys KeepsChain (Runner.whole ctx budget main) :=
  .whole keepsChain_closed (keepsChain_runGlobals ctx budget _)
    (keepsChain_exec ctx budget main.body) (fun event _ => linear_noted event)
    fun _ _ _ _ h => ⟨h.parent, h.current⟩

namespace Runner

/-- A run leaves a chain of scopes behind, be it ended well or not. -/
theorem linear_runWithin {r : Runner} (budget : Nat) (h : r.machine.Linear) :
    (r.runWithin budget).2.machine.Linear := by
  cases hmain : r.program.find? mainName with
  | none =>
    rw [runWithin_of_no_main hmain]
    exact h
  | some main =>
    rw [(runWithin_of_main hmain budget).2]
    exact keepsChain_whole r.context budget main r.machine h

/-- The root alone is a chain. -/
theorem linear_ofProgram (program : Program) (inputs : List Int32) (limits : Limits)
    (logged : Bool) : (ofProgram program inputs limits logged).machine.Linear := by
  refine ⟨fun id hid => ?_, rfl⟩
  have hone : id + 1 < 1 := hid
  omega

/-- Any number of runs leave a chain of scopes behind. -/
theorem Later.linear {r r' : Runner} (h : r.Later r') (hr : r.machine.Linear) :
    r'.machine.Linear := by
  induction h with
  | self => exact hr
  | again _ budget ih => exact linear_runWithin budget ih

/-- Each global declaration and the body of main begin on a chain of scopes. -/
theorem Starts.linear {r : Runner} {budget : Nat} {a : Activity} (h : r.Starts budget a)
    (hr : r.machine.Linear) : a.machine.Linear := by
  cases h with
  | global _ _ hbefore =>
    exact (keepsChain_runGlobals r.context budget _).of_ok hbefore hr
  | main _ hglobals =>
    have hm := (keepsChain_runGlobals r.context budget _).of_ok hglobals hr
    exact ⟨hm.parent, hm.current⟩

/-- A run comes by chains of scopes only. -/
theorem Visits.linear {r : Runner} {budget : Nat} {a : Activity} (h : r.Visits budget a)
    (hr : r.machine.Linear) : a.machine.Linear ∧ (a.final r.context).Linear := by
  obtain ⟨start, calls, hstart, hreaches⟩ := h
  have ha : a.machine.Linear := hreaches.invariant Begins.linear (hstart.linear hr)
  exact ⟨ha, linear_of_statement ((frameDiscipline r.context).obeys_task a.budget a.task a.machine) ha⟩

end Runner

/-! ## Section 6: Scopes and frames -/

/-- Evaluation leaves the frame as it was, whether it gives a value or halts. Expressions and blocks
declare nothing, other statements declare in the current scope only, and at every point of every run
the scopes form a chain. -/
theorem frame_kept_and_scopes_linear :
    (∀ (ctx : Context) (budget : Nat) (node : Node) (m : Machine), m.Linear →
      m.Frame (final (eval ctx (activate ctx budget) node m)) ∧
        m.SameNames (final (eval ctx (activate ctx budget) node m))) ∧
    (∀ (ctx : Context) (budget rounds : Nat) (node : Node) (m : Machine), m.Linear →
      m.Frame (final (exec ctx (activate ctx budget) rounds node m)) ∧
        m.AddsNames (final (exec ctx (activate ctx budget) rounds node m))) ∧
    (∀ (ctx : Context) (budget rounds : Nat) (body : Node) (loc : Location) (m : Machine),
      m.Linear → m.SameNames (final (exec ctx (activate ctx budget) rounds (.block body loc) m))) ∧
    ∀ (program : Program) (inputs : List Int32) (limits : Limits) (logged : Bool) (r : Runner),
      (Runner.ofProgram program inputs limits logged).Later r →
        r.machine.Linear ∧ ∀ (budget : Nat) (a : Activity), r.Visits budget a →
          a.machine.Linear ∧ (a.final r.context).Linear := by
  have hexec : ∀ ctx budget rounds node, Obeys ((frameDiscipline ctx).statement 0)
      (exec ctx (activate ctx budget) rounds node) :=
    fun ctx budget rounds => (frameDiscipline ctx).obeys_exec
      ((frameDiscipline ctx).obeys_enter budget) (Nat.zero_le rounds)
  refine ⟨fun ctx budget node m hm => ?_, fun ctx budget rounds node m hm => ?_,
    fun ctx budget rounds body loc m hm => ?_, fun program inputs limits logged r hr => ?_⟩
  · exact (frameDiscipline ctx).obeys_eval ((frameDiscipline ctx).obeys_enter budget) node m
      hm.depth_pos
  · exact hexec ctx budget rounds node m hm.depth_pos
  · -- A block declares in its own scope, and so it is like an expression to the scopes outside.
    have hblock : Obeys ((frameDiscipline ctx).value 0)
        (exec ctx (activate ctx budget) rounds (.block body loc)) :=
      (frameDiscipline ctx).value_bind ((frameDiscipline ctx).arrive _) fun _ =>
        (frameDiscipline ctx).inScope (hexec ctx budget rounds body)
    exact (hblock m hm.depth_pos).2
  · have hlinear := hr.linear (Runner.linear_ofProgram program inputs limits logged)
    exact ⟨hlinear, fun budget a ha => ha.linear hlinear⟩

/-- A function that divides by zero in a block in its body. -/
def divides : Routine :=
  ⟨"f", ["x"], .block (.giveBack (.binary .div (.literal 1 .start) (.var (.plain "x" .start)) .start)
    .start) .start, .start⟩

/-- A fault in a block in a called function leaves the caller's scopes and frame as they were. -/
theorem frame_kept_after_fault :
    let r := Runner.ofProgram ⟨[divides], []⟩ [] .usual false
    let result := eval r.context (activate r.context 1) (.call "f" [.literal 0 .start] .start)
      r.machine
    halt? result = some (.fault (.divisionByZero .start)) ∧ r.machine.Frame (final result) := by
  intro r result
  have hfault : halt? result = some (.fault (.divisionByZero .start)) := by decide
  have hlinear : r.machine.Linear := Runner.linear_ofProgram _ _ _ _
  exact ⟨hfault, (frame_kept_and_scopes_linear.1 r.context 1 _ r.machine hlinear).1⟩

end Stepwise
