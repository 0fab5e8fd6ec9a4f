import Mathlib.Data.List.Find
import Stepwise.Proofs.Recording
import Stepwise.Proofs.SlotLaws

/-!
# Entering a function

The body of a function runs in a scope of its own inside the scope of its caller. The arguments have been
evaluated before that scope is there, so the parameters take their values all at once, even where an
argument is a variable with the name of another parameter. Everything else is seen as the caller sees it.

What the body writes goes to the innermost scope that has declared the name. The scopes that have been
opened since the call stand inside those of the caller, and in the latter no name is declared until they
are closed again. So a name that none of the new scopes declares belongs where it belonged for the caller,
and a name that one of them declares belongs to a new scope.

## Main results

* `Machine.bindParams_apply`: what binding parameters does to the scope of a call.
* `Begins.inner`: whatever a call begins, it begins inside the scopes of its caller.
* `Machine.Inner.owner?_eq`, `Machine.Inner.exists_owner?_ge`: where the slots of a body belong.
* `calls_see_and_write_the_callers_scopes`: what a body reads at its beginning and where it writes.
-/

namespace Stepwise

open Machine Exec

/-! ## Section 1: What a scope holds -/

theorem Slot.base_of_isPlain {name : String} (h : IsPlain name) : base name = name := by
  have hbase := base_key h []
  rwa [key_nil] at hbase

namespace Store

variable {store : Store} {s t id owner : Nat} {key : String}

/-- What a scope that is alive holds under a key. -/
def held (store : Store) (id : Nat) (key : String) : Option Int32 :=
  store.scopes[id]?.map fun scope => scope.values.getD key 0

theorem get?_eq_held (h : store.owner? t key = some owner) : store.get? t key = store.held owner key :=
  get?_of_owner? h

/-- Writing a slot changes what one scope holds under one key. -/
theorem held_set (h : store.owner? s key = some owner) (howner : owner < store.depth) (v : Int32)
    (id : Nat) (key' : String) :
    (store.set s key v).held id key' =
      if id = owner ∧ key' = key then some v else store.held id key' := by
  rw [held, held, set, h]
  dsimp only
  rw [Array.getElem?_modify]
  by_cases hid : owner = id
  · subst hid
    rw [if_pos rfl, Array.getElem?_eq_getElem howner, Option.map_some, Option.map_some, Scope.write,
      Std.TreeMap.getD_insert]
    simp only [Std.compare_eq_iff_eq, true_and, eq_comm (a := key)]
    split <;> rfl
  · rw [if_neg hid, if_neg fun hsame => hid hsame.1.symm]

theorem declares_iff {name : String} : store.declares name id = true ↔ store.Declares id name := by
  unfold declares Declares
  cases store.declared? id with
  | none => simp
  | some names => simp

/-- A name that has been declared in a scope belongs to it. -/
theorem owner?_of_declares (h : store.declares (Slot.base key) id = true) :
    store.owner? id key = some id := by
  have hid : id < store.depth := by
    by_contra hle
    rw [declares, declared?_eq_none (Nat.le_of_not_lt hle)] at h
    cases h
  obtain ⟨steps, hsteps⟩ := Nat.exists_eq_add_of_le' (Nat.zero_lt_of_lt hid)
  rw [owner?, hsteps, ownerWithin?_succ, h]
  have hparent : store.parent? id = some store.scopes[id].parent := by
    rw [parent?, Array.getElem?_eq_getElem hid, Option.map_some]
  rw [hparent]
  cases store.scopes[id].parent with
  | none => rfl
  | some parent => rfl

end Store

/-! ## Section 2: Binding parameters -/

namespace Scope

/-- The scope after parameters have been declared in it and have got their values. -/
def bind : List String → List Int32 → Scope → Scope
  | param :: params, value :: values, scope =>
    bind params values ((scope.declare param).write param value)
  | _, _, scope => scope

variable {params : List String} {values : List Int32}

theorem isDeclared_bind (hlength : params.length = values.length) (scope : Scope) (name : String) :
    (bind params values scope).isDeclared name = true ↔
      name ∈ params ∨ scope.isDeclared name = true := by
  induction params generalizing values scope with
  | nil => simp [bind]
  | cons param params ih =>
    cases values with
    | nil => cases hlength
    | cons value values =>
      rw [bind, ih (Nat.succ.inj hlength)]
      simp only [isDeclared, write, declare, Std.TreeSet.contains_insert, Bool.or_eq_true, beq_iff_eq,
        Std.compare_eq_iff_eq, List.mem_cons]
      rw [← or_assoc, or_comm (a := name ∈ params), eq_comm (a := param), or_assoc]

theorem getD_write_declare (scope : Scope) (param : String) (value : Int32) (key : String) :
    ((scope.declare param).write param value).values.getD key 0 =
      if key = param then value else scope.values.getD key 0 := by
  rw [write, declare, Std.TreeMap.getD_insert, Std.TreeMap.getD_insert]
  simp only [Std.compare_eq_iff_eq, eq_comm (a := param)]
  split <;> rfl

/-- A key that is no parameter holds what it held. -/
theorem getD_bind_of_notMem {key : String} (h : key ∉ params) (values : List Int32) (scope : Scope) :
    (bind params values scope).values.getD key 0 = scope.values.getD key 0 := by
  fun_induction bind params values scope with
  | case1 param params value values scope ih =>
    obtain ⟨hne, hrest⟩ := List.ne_and_not_mem_of_not_mem_cons h
    rw [ih hrest, getD_write_declare, if_neg hne]
  | case2 => rfl

/-- A parameter holds its value, if no other one has the same name. -/
theorem getD_bind (hnodup : params.Nodup) {i : Nat} {param : String} {value : Int32}
    (hparam : params[i]? = some param) (hvalue : values[i]? = some value) (scope : Scope) :
    (bind params values scope).values.getD param 0 = value := by
  induction params generalizing values scope i with
  | nil => cases hparam
  | cons first params ih =>
    cases values with
    | nil => cases hvalue
    | cons v values =>
      obtain ⟨hfirst, hnodup⟩ := List.nodup_cons.mp hnodup
      rw [bind]
      cases i with
      | zero =>
        -- The parameters behind the first one do not change its value.
        cases hparam
        cases hvalue
        rw [getD_bind_of_notMem hfirst, getD_write_declare, if_pos rfl]
      | succ i => exact ih hnodup hparam hvalue _

end Scope

namespace Store

theorem modify_modify (scopes : Array Scope) (id : Nat) (f g : Scope → Scope) :
    (scopes.modify id f).modify id g = scopes.modify id (g ∘ f) := by
  apply Array.ext_getElem?
  intro i
  simp only [Array.getElem?_modify]
  split
  · exact Option.map_map g f _
  · rfl

/-- A name that is declared in a scope and written from there is written in that scope. -/
theorem set_declare {store : Store} {id : Nat} {name : String} (hname : Slot.IsPlain name)
    (hid : id < store.depth) (value : Int32) :
    (store.declare id name).set id name value =
      ⟨store.scopes.modify id fun scope => (scope.declare name).write name value⟩ := by
  have howner : (store.declare id name).owner? id name = some id := by
    apply owner?_of_declares
    rw [Slot.base_of_isPlain hname, declares, declared?_declare, if_pos rfl, declared?,
      Array.getElem?_eq_getElem hid]
    simp
  rw [set, howner]
  dsimp only [declare]
  rw [modify_modify]
  rfl

end Store

/-- Binding parameters binds them in the current scope and does nothing else. -/
theorem Machine.bindParams_apply {params : List String}
    (hplain : ∀ param ∈ params, Slot.IsPlain param) (values : List Int32) {n : Machine}
    (hscope : n.scope < n.store.depth) :
    bindParams params values n =
      .ok () { n with store := ⟨n.store.scopes.modify n.scope (Scope.bind params values)⟩ } := by
  have hnothing : ∀ {n : Machine}, n = { n with store := ⟨n.store.scopes.modify n.scope id⟩ } := by
    intro n
    have hsame : n.store.scopes.modify n.scope id = n.store.scopes := by
      apply Array.ext_getElem?
      intro i
      rw [Array.getElem?_modify]
      split
      · exact Option.map_id_apply
      · rfl
    rw [hsame]
  induction params generalizing values n with
  | nil => exact congrArg _ hnothing
  | cons param params ih =>
    cases values with
    | nil => exact congrArg _ hnothing
    | cons value values =>
      obtain ⟨hparam, hplain⟩ := List.forall_mem_cons.mp hplain
      have hset := Store.set_declare hparam hscope value
      have hfirst : bindParams (param :: params) (value :: values) n =
          bindParams params values { n with
            store := (n.store.declare n.scope param).set n.scope param value } := rfl
      rw [hfirst, hset, ih hplain values (by simpa [Store.depth] using hscope)]
      dsimp only
      rw [Store.modify_modify]
      rfl

/-! ## Section 3: Inside the scopes of a caller -/

namespace Machine

/-- The second machine is inside the scopes of the first one: they are alive with the names that were
declared in them, and others have been opened since, the last of which is current. -/
structure Inner (m n : Machine) : Prop where
  rooted : n.Rooted
  deeper : m.store.depth < n.store.depth
  declared (id : Nat) (h : id < m.store.depth) : n.store.declared? id = m.store.declared? id

/-- The name of a key has been declared in one of the scopes that have been opened since. -/
def DeclaresSince (m n : Machine) (key : String) : Prop :=
  ∃ id, m.store.depth ≤ id ∧ id < n.store.depth ∧ n.store.Declares id (Slot.base key)

variable {m n n' : Machine}

theorem Rooted.isTree (h : m.Rooted) : m.store.IsTree := by
  refine ⟨h.root, fun id hpos hid => ?_⟩
  obtain ⟨id, rfl⟩ := Nat.exists_eq_succ_of_ne_zero (Nat.ne_of_gt hpos)
  exact ⟨id, Nat.lt_succ_self id, h.parent id hid⟩

/-- The way outwards from a scope of a chain leads by all scopes that are older. -/
theorem Rooted.outward (h : m.Rooted) {id : Nat} (hid : id < m.store.depth) :
    m.store.Outward id (List.range (id + 1)).reverse :=
  Store.outward_of_linear h.root fun k hk => h.parent k (by omega)

theorem Rooted.scope_lt (h : m.Rooted) : m.scope < m.store.depth := by
  have hcurrent := h.current
  omega

namespace Inner

/-- What a statement does inside these scopes keeps them as they are. -/
theorem of_statement (h : m.Inner n) (hn : DeclaresHere n none n') : m.Inner n' := by
  have hdeeper := h.deeper
  have hcurrent := h.rooted.current
  obtain ⟨hframe, hnames⟩ := hn h.rooted.depth_pos
  refine ⟨hframe.rooted h.rooted, hframe.depth ▸ hdeeper, fun id hid => ?_⟩
  -- Names have been declared in the current scope only, which is none of the caller's.
  rw [hnames.others id (by omega)]
  exact h.declared id hid

theorem of_value (h : m.Inner n) (hn : KeepsNames n none n') : m.Inner n' :=
  h.of_statement (declaresHere_of_keepsNames hn)

/-- A scope that is opened inside these scopes stands behind them. -/
theorem inside (h : m.Inner n) : m.Inner n.inside := by
  have hdeeper := h.deeper
  have hdepth : n.inside.store.depth = n.store.depth + 1 := Store.depth_push n.store n.scope
  refine ⟨(rooted_opened h.rooted).of_eq rfl rfl, by omega, fun id hid => ?_⟩
  exact (Store.declared?_push_of_lt n.scope (by omega)).trans (h.declared id hid)

theorem insideCall (h : m.Inner n) (routine : Routine) (args : List Int32) :
    m.Inner (n.insideCall routine args) :=
  inside ⟨h.rooted.of_eq rfl rfl, h.deeper, h.declared⟩

end Inner

/-- The scope of a call is opened inside the scopes of the caller. -/
theorem Rooted.inner_insideCall (h : m.Rooted) (routine : Routine) (args : List Int32) :
    m.Inner (m.insideCall routine args) := by
  have hcalled : (m.called routine.name).Rooted := h.of_eq rfl rfl
  have hdepth : (m.insideCall routine args).store.depth = m.store.depth + 1 :=
    Store.depth_push m.store m.scope
  refine ⟨(rooted_opened hcalled).of_eq rfl rfl, by omega, fun id hid => ?_⟩
  exact Store.declared?_push_of_lt m.scope hid

end Machine

theorem declaresHere_bindParams : ∀ params values, Obeys DeclaresHere (bindParams params values)
  | param :: params, value :: values =>
    .bind declaresHere_closed (declaresHere_declare param) fun _ =>
      .bind declaresHere_closed ((keepsNames_save param value).mono declaresHere_of_keepsNames)
        fun _ => declaresHere_bindParams params values
  | [], _ => .pure declaresHere_closed ()
  | _ :: _, [] => .pure declaresHere_closed ()

/-- Whatever is begun inside the scopes of a caller goes on inside them. -/
theorem Begins.inner {ctx : Context} {a b : Activity} (h : Begins ctx a b) {m : Machine}
    (ha : m.Inner a.machine) : m.Inner b.machine := by
  rcases h.cases (frameDiscipline ctx) with hsame | ⟨n, hn, hb⟩ | ⟨routine, args, -, n, -, -, ht, hb⟩
  · exact ha.of_statement hsame
  · rw [hb]
    exact (ha.of_value hn).inside
  · have hn := ha.of_value ((keepsNames_tick ctx).of_ok ht)
    exact (hn.insideCall routine args).of_statement
      ((declaresHere_bindParams routine.params args).of_ok hb)

namespace Machine.Inner

variable {m n : Machine}

/-- The scopes from the current one outwards: first those that have been opened since, and then those of
the caller. -/
theorem exists_range_eq (hm : m.Rooted) (h : m.Inner n) :
    ∃ fresh, (List.range (n.scope + 1)).reverse = fresh ++ (List.range (m.scope + 1)).reverse ∧
      ∀ id, id ∈ fresh ↔ m.store.depth ≤ id ∧ id < n.store.depth := by
  obtain ⟨more, hmore⟩ := Nat.exists_eq_add_of_le (Nat.le_of_lt h.deeper)
  refine ⟨((List.range more).map (m.store.depth + ·)).reverse, ?_, fun id => ?_⟩
  · rw [h.rooted.current, hmore, hm.current, List.range_add, List.reverse_append]
  · simp only [List.mem_reverse, List.mem_map, List.mem_range, hmore]
    constructor
    · rintro ⟨k, hk, rfl⟩
      omega
    · rintro ⟨hle, hlt⟩
      exact ⟨id - m.store.depth, by omega, by omega⟩

/-- In the scopes of the caller the same names are declared as before. -/
theorem find?_declares_eq (h : m.Inner n) (hm : m.Rooted) (name : String) :
    (List.range (m.scope + 1)).reverse.find? (n.store.declares name) =
      (List.range (m.scope + 1)).reverse.find? (m.store.declares name) := by
  refine List.find?_congr fun id hid => ?_
  rw [List.mem_reverse, List.mem_range, hm.current] at hid
  rw [Store.declares, Store.declares, h.declared id hid]

/-- For the caller every slot belongs where it did. -/
theorem owner?_outer (h : m.Inner n) (hm : m.Rooted) (key : String) :
    n.store.owner? m.scope key = m.store.owner? m.scope key := by
  have hscope : m.scope < n.store.depth := Nat.lt_trans hm.scope_lt h.deeper
  rw [h.rooted.isTree.owner?_eq hscope (h.rooted.outward hscope),
    hm.isTree.owner?_eq hm.scope_lt (hm.outward hm.scope_lt), h.find?_declares_eq hm]

/-- A slot whose name none of the new scopes has declared belongs where it belongs for the caller. -/
theorem owner?_eq (h : m.Inner n) (hm : m.Rooted) {key : String} (hkey : ¬ DeclaresSince m n key) :
    n.store.owner? n.scope key = m.store.owner? m.scope key := by
  obtain ⟨fresh, hrange, hfresh⟩ := h.exists_range_eq hm
  have hnone : fresh.find? (n.store.declares (Slot.base key)) = none := by
    refine List.find?_eq_none.mpr fun id hid hdeclares => hkey ?_
    obtain ⟨hle, hlt⟩ := (hfresh id).mp hid
    exact ⟨id, hle, hlt, Store.declares_iff.mp hdeclares⟩
  rw [h.rooted.isTree.owner?_eq h.rooted.scope_lt (h.rooted.outward h.rooted.scope_lt),
    hm.isTree.owner?_eq hm.scope_lt (hm.outward hm.scope_lt), hrange, List.find?_append, hnone,
    Option.none_or, h.find?_declares_eq hm]

/-- A slot whose name one of the new scopes has declared belongs to a new scope. -/
theorem exists_owner?_ge (h : m.Inner n) (hm : m.Rooted) {key : String}
    (hkey : DeclaresSince m n key) :
    ∃ owner, m.store.depth ≤ owner ∧ n.store.owner? n.scope key = some owner := by
  obtain ⟨fresh, hrange, hfresh⟩ := h.exists_range_eq hm
  obtain ⟨id, hle, hlt, hdeclares⟩ := hkey
  obtain ⟨owner, howner⟩ : ∃ owner, fresh.find? (n.store.declares (Slot.base key)) = some owner := by
    refine Option.isSome_iff_exists.mp (List.find?_isSome.mpr ⟨id, (hfresh id).mpr ⟨hle, hlt⟩, ?_⟩)
    exact Store.declares_iff.mpr hdeclares
  refine ⟨owner, ((hfresh owner).mp (List.mem_of_find?_eq_some howner)).1, ?_⟩
  rw [h.rooted.isTree.owner?_eq h.rooted.scope_lt (h.rooted.outward h.rooted.scope_lt), hrange,
    List.find?_append, howner]
  rfl

end Machine.Inner

/-! ## Section 4: When the body begins -/

namespace Machine

/-- What a body sees at its beginning, if it begins on the machine `n` and the caller's is `m`: its
parameters with their values, arrays of zeros under their names, and everything else as the caller does. -/
structure Sees (m : Machine) (params : List String) (values : List Int32) (n : Machine) : Prop where
  value {i : Nat} {param : String} {v : Int32} (hparam : params[i]? = some param)
    (hvalue : values[i]? = some v) : n.store.get? n.scope param = some v
  index {param : String} (hparam : param ∈ params) {indices : List Int32} (hindices : indices ≠ []) :
    n.store.get? n.scope (Slot.key param indices) = some 0
  other {key : String} (hkey : Slot.base key ∉ params) :
    n.store.get? n.scope key = m.store.get? m.scope key

/-- The machine on which the body of a function begins. -/
def entered (routine : Routine) (values : List Int32) (m : Machine) : Machine :=
  { m.insideCall routine values with
    store := ⟨m.store.scopes.push (.bind routine.params values { parent := some m.scope })⟩ }

variable {m : Machine} {routine : Routine} {values : List Int32}

theorem bindParams_insideCall (hplain : ∀ param ∈ routine.params, Slot.IsPlain param) :
    bindParams routine.params values (m.insideCall routine values) =
      .ok () (m.entered routine values) := by
  have hscope : (m.insideCall routine values).scope < (m.insideCall routine values).store.depth := by
    have hdepth : (m.insideCall routine values).store.depth = m.store.depth + 1 :=
      Store.depth_push m.store m.scope
    exact hdepth ▸ Nat.lt_succ_self m.store.depth
  have hpush : (m.store.scopes.push { parent := some m.scope }).modify m.store.depth
        (Scope.bind routine.params values) =
      m.store.scopes.push (.bind routine.params values { parent := some m.scope }) := by
    apply Array.ext_getElem?
    intro id
    rw [Array.getElem?_modify, Array.getElem?_push, Array.getElem?_push, Store.depth]
    by_cases hid : id = m.store.scopes.size
    · rw [if_pos hid.symm, if_pos hid, if_pos hid]
      rfl
    · rw [if_neg (Ne.symm hid), if_neg hid, if_neg hid]
  rw [bindParams_apply hplain values hscope, entered, ← hpush]
  rfl

theorem held_entered_of_lt {id : Nat} (hid : id < m.store.depth) (key : String) :
    (m.entered routine values).store.held id key = m.store.held id key := by
  have hne : id ≠ m.store.scopes.size := Nat.ne_of_lt hid
  rw [Store.held, entered, Array.getElem?_push, if_neg hne, Store.held]

theorem held_entered (key : String) :
    (m.entered routine values).store.held m.store.depth key =
      some ((Scope.bind routine.params values { parent := some m.scope }).values.getD key 0) := by
  rw [Store.held, entered, Store.depth, Array.getElem?_push_size]
  rfl

theorem declares_entered (hlength : routine.params.length = values.length) (name : String) :
    (m.entered routine values).store.declares name m.store.depth = true ↔ name ∈ routine.params := by
  rw [Store.declares, Store.declared?, entered, Store.depth, Array.getElem?_push_size]
  have hbind := Scope.isDeclared_bind hlength { parent := some m.scope } name
  have hempty : ({ parent := some m.scope } : Scope).isDeclared name = false := rfl
  rw [hempty] at hbind
  simp only [Bool.false_eq_true, or_false] at hbind
  exact hbind

/-- The names that have been declared since the call are the parameters. -/
theorem declaresSince_entered (hlength : routine.params.length = values.length) {key : String} :
    m.DeclaresSince (m.entered routine values) key ↔ Slot.base key ∈ routine.params := by
  have hdepth : (m.entered routine values).store.depth = m.store.depth + 1 := Array.size_push _
  rw [← declares_entered (m := m) hlength, Store.declares_iff, DeclaresSince]
  constructor
  · rintro ⟨id, hle, hlt, hdeclares⟩
    obtain rfl : id = m.store.depth := by omega
    exact hdeclares
  · intro hdeclares
    exact ⟨m.store.depth, Nat.le_refl _, by omega, hdeclares⟩

namespace Rooted

theorem inner_entered (h : m.Rooted) (hplain : ∀ param ∈ routine.params, Slot.IsPlain param) :
    m.Inner (m.entered routine values) :=
  (h.inner_insideCall routine values).of_statement
    ((declaresHere_bindParams routine.params values).of_ok (bindParams_insideCall hplain))

/-- Parameters are read in the scope of the call, and everything else as the caller reads it. -/
theorem sees_entered (h : m.Rooted) (hlength : routine.params.length = values.length)
    (hplain : ∀ param ∈ routine.params, Slot.IsPlain param) (hnodup : routine.params.Nodup) :
    m.Sees routine.params values (m.entered routine values) := by
  have hparam : ∀ key, Slot.base key ∈ routine.params →
      (m.entered routine values).store.get? m.store.depth key =
        some ((Scope.bind routine.params values { parent := some m.scope }).values.getD key 0) := by
    intro key hkey
    rw [Store.get?_eq_held (Store.owner?_of_declares ((declares_entered hlength _).mpr hkey)),
      held_entered]
  constructor
  · intro i param v hi hv
    have hmem := List.mem_of_getElem? hi
    have hread := hparam param (by rwa [Slot.base_of_isPlain (hplain param hmem)])
    rwa [Scope.getD_bind hnodup hi hv] at hread
  · intro param hmem indices hindices
    have hread := hparam (Slot.key param indices) (by rwa [Slot.base_key (hplain param hmem)])
    -- A key with indices is no name, and nothing else is stored in the new scope.
    have hnotMem : Slot.key param indices ∉ routine.params := fun hkey =>
      hindices ((Slot.key_inj (hplain _ hmem) (hplain _ hkey)).mp (Slot.key_nil _).symm).2
    rwa [Scope.getD_bind_of_notMem hnotMem] at hread
  · intro key hkey
    obtain ⟨owner, hlt, howner⟩ := h.isTree.exists_owner? h.scope_lt key
    have hinner : m.Inner (m.entered routine values) := h.inner_entered hplain
    have hsame := hinner.owner?_eq h (mt (declaresSince_entered hlength).mp hkey)
    rw [Store.get?_eq_held (hsame.trans howner), Store.get?_eq_held howner, held_entered_of_lt hlt]

end Rooted

end Machine

/-! ## Section 5: Writing from inside -/

/-- The activity `a`, on its way, writes a value under a key on a machine: it assigns the value, or it
reads it from the input. -/
inductive Writes (ctx : Context) : Activity → Machine → String → Int32 → Prop where
  | assigned {b : Nat} {m m₁ n : Machine} {loc : Location} {target : Reference Node} {value : Node}
      {v : Int32} {key : String} (hvalue : eval ctx (activate ctx b) value m = .ok v m₁)
      (hslot : slot ctx (activate ctx b) target m₁ = .ok key n) :
      Writes ctx ⟨b, .value (.assignment target value loc), m⟩ n key v
  | input {b : Nat} {m m₁ n : Machine} {loc : Location} {target : Reference Node}
      {targets : List (Reference Node)} {v : Int32} {key : String}
      (hslot : slot ctx (activate ctx b) target m = .ok key m₁) (hnext : next loc m₁ = .ok v n) :
      Writes ctx ⟨b, .input loc (target :: targets), m⟩ n key v

/-- What is written inside the scopes of a caller is written inside them still. -/
theorem Writes.inner {ctx : Context} {a : Activity} {m n : Machine} {key : String} {v : Int32}
    (h : Writes ctx a n key v) (ha : m.Inner a.machine) : m.Inner n := by
  cases h with
  | assigned hvalue hslot =>
    have h₁ := ((frameDiscipline ctx).obeys_eval ((frameDiscipline ctx).obeys_enter _) _).of_ok hvalue
    have h₂ := ((frameDiscipline ctx).obeys_slot ((frameDiscipline ctx).obeys_enter _) _).of_ok hslot
    exact (ha.of_value h₁).of_value h₂
  | input hslot hnext =>
    have h₁ := ((frameDiscipline ctx).obeys_slot ((frameDiscipline ctx).obeys_enter _) _).of_ok hslot
    exact (ha.of_value h₁).of_value ((keepsNames_next _).of_ok hnext)

/-- What writing a slot on the machine `n` does to the scopes of the caller, whose machine is `m`. If its
name has not been declared since the call, the slot is written that the caller would write, then and now,
and nothing else is changed; otherwise the scopes of the caller stay as they are. -/
structure Machine.WritesFrom (m n : Machine) (key : String) (v : Int32) : Prop where
  through (hkey : ¬ m.DeclaresSince n key) :
    ∃ owner < m.store.depth, m.store.owner? m.scope key = some owner ∧
      n.store.owner? m.scope key = some owner ∧
      (∀ id key', (final (save key v n)).store.held id key' =
        if id = owner ∧ key' = key then some v else n.store.held id key') ∧
      (final (save key v n)).store.get? m.scope key = some v
  kept (hkey : m.DeclaresSince n key) (id : Nat) (hid : id < m.store.depth) :
    (final (save key v n)).store.scopes[id]? = n.store.scopes[id]?

theorem Machine.Inner.writesFrom {m n : Machine} (h : m.Inner n) (hm : m.Rooted) (key : String)
    (v : Int32) : m.WritesFrom n key v := by
  constructor
  · intro hkey
    obtain ⟨owner, hlt, howner⟩ := hm.isTree.exists_owner? hm.scope_lt key
    have hwritten := (h.owner?_eq hm hkey).trans howner
    have hcaller := (h.owner?_outer hm key).trans howner
    have halive : owner < n.store.depth := Nat.lt_trans hlt h.deeper
    have hread := Store.get?_set hwritten hcaller halive v
    rw [if_pos ⟨rfl, rfl⟩] at hread
    exact ⟨owner, hlt, howner, hcaller, Store.held_set hwritten halive v, hread⟩
  · intro hkey id hid
    obtain ⟨owner, hge, howner⟩ := h.exists_owner?_ge hm hkey
    have hset : (n.store.set n.scope key v).scopes =
        n.store.scopes.modify owner (·.write key v) := by
      rw [Store.set, howner]
    show (n.store.set n.scope key v).scopes[id]? = n.store.scopes[id]?
    rw [hset, Array.getElem?_modify, if_neg (by omega)]

/-! ## Section 6: Calls -/

/-- A call that is let in leaves of the caller's scopes what the body leaves of them. -/
theorem scopes_of_call {ctx : Context} {b : Nat} {routine : Routine} {values : List Int32}
    {m m₁ n : Machine} (hdepth : m.callDepth ≤ ctx.limits.maxDepth) (htick : tick ctx m = .ok () m₁)
    (hparams : bindParams routine.params values (m₁.insideCall routine values) = .ok () n)
    (hn : m.Inner n) (loc : Location) {id : Nat} (hid : id < m.store.depth) :
    (final (activate ctx (b + 1) routine values loc m)).store.scopes[id]? =
      (final (exec ctx (activate ctx b) b routine.body n)).store.scopes[id]? := by
  have hcallDepth : m₁.callDepth = m.callDepth := by rw [eq_of_tick htick]
  have hend : final (activate ctx (b + 1) routine values loc m) =
      ((final (exec ctx (activate ctx b) b routine.body n)).closed m₁.scope).returned m₁.routine := by
    rw [activate_succ, get_bind_apply, if_neg (Nat.not_lt.mpr hdepth), bind_of_ok htick, ← hcallDepth,
      final_runBody, bind_of_ok hparams]
  have hdeeper := hn.deeper
  have hbody : Obeys DeclaresHere (exec ctx (activate ctx b) b routine.body) :=
    (frameDiscipline ctx).obeys_exec ((frameDiscipline ctx).obeys_enter b) (Nat.zero_le b) _
  have hsame : (final (exec ctx (activate ctx b) b routine.body n)).store.depth = n.store.depth :=
    (hbody n hn.rooted.depth_pos).1.depth
  rw [hend]
  -- The only scope that is closed is the one of the call.
  show (final (exec ctx (activate ctx b) b routine.body n)).store.pop.scopes[id]? = _
  rw [Store.scopes_pop (by omega), Array.getElem?_pop, if_pos]
  exact Nat.lt_of_lt_of_le hid (by rw [← Store.depth]; omega)

/-- There are as many values as there are expressions. -/
theorem length_of_evalAll {ctx : Context} {enter : Enter} {nodes : List Node} {values : List Int32}
    {m m' : Machine} (h : evalAll ctx enter nodes m = .ok values m') :
    values.length = nodes.length := by
  induction nodes generalizing values m with
  | nil =>
    cases h
    rfl
  | cons node nodes ih =>
    rw [evalAll] at h
    obtain ⟨v, m₁, -, h⟩ := exists_of_bind_eq_ok h
    obtain ⟨vs, m₂, hvs, h⟩ := exists_of_bind_eq_ok h
    cases h
    exact congrArg Nat.succ (ih hvs)

/-- Entering a function binds its parameters all at once, over what the caller sees. Take any point of
any run after any number of runs, and a call there of a function whose parameters have different names:
the arguments are as many as the parameters, they have been evaluated, and neither the limit on nested
calls nor the one on steps stops the call. Then the body begins, and at its beginning each parameter has
its value and only zeros at indices, and everything else is read as the caller reads it. Wherever the
body, or what it calls, writes a slot whose name has not been declared in a scope that has been opened
since, it changes the slot that the caller would write and nothing else; and what it writes under any
other name leaves the caller's scopes as they are. When the call returns, the caller finds its scopes as
the body has left them. -/
theorem calls_see_and_write_the_callers_scopes (program : Program) (inputs : List Int32)
    (limits : Limits) (logged : Bool) (r : Runner)
    (hr : (Runner.ofProgram program inputs limits logged).Later r) {budget b : Nat} {callee : String}
    {args : List Node} {loc : Location} {start m m₁ : Machine} {routine : Routine}
    {values : List Int32} (hvisits : r.Visits budget ⟨b + 1, .value (.call callee args loc), start⟩)
    (hname : callee ≠ putchar) (hfind : r.program.find? callee = some routine)
    (hcount : routine.params.length = args.length)
    (hargs : evalAll r.context (activate r.context (b + 1)) args start = .ok values m)
    (hdepth : m.callDepth ≤ r.limits.maxDepth) (htick : tick r.context m = .ok () m₁)
    (hplain : ∀ param ∈ routine.params, Slot.IsPlain param) (hnodup : routine.params.Nodup) :
    ∃ n, Begins r.context ⟨b + 1, .call routine values loc, m⟩ ⟨b, .statement routine.body, n⟩ ∧
      routine.params.length = values.length ∧ m.Sees routine.params values n ∧
      (∀ calls a o key v, Reaches r.context ⟨b, .statement routine.body, n⟩ calls a →
        Writes r.context a o key v → m.WritesFrom o key v) ∧
      ∀ id < m.store.depth,
        (final (activate r.context (b + 1) routine values loc m)).store.scopes[id]? =
          (final (exec r.context (activate r.context b) b routine.body n)).store.scopes[id]? := by
  obtain ⟨first, calls, hfirst, hreaches⟩ := hvisits
  have hcall : r.Visits budget ⟨b + 1, .call routine values loc, m⟩ :=
    ⟨first, _, hfirst, hreaches.begins (.enter hname hfind hcount hargs)⟩
  have hm : m.Rooted := hcall.rooted (hr.rooted (Runner.rooted_ofProgram _ _ _ _))
  have hlength : routine.params.length = values.length := hcount.trans (length_of_evalAll hargs).symm
  have hparams : bindParams routine.params values (m₁.insideCall routine values) =
      .ok () (m₁.entered routine values) := bindParams_insideCall hplain
  -- The step that the call counts is no matter of scopes.
  have hstepped := eq_of_tick htick
  have hm₁ : m₁.Rooted := hm.of_eq (by rw [hstepped]) (by rw [hstepped])
  have hsees : m.Sees routine.params values (m₁.entered routine values) := by
    have hsees₁ := hm₁.sees_entered hlength hplain hnodup
    rw [hstepped] at hsees₁ ⊢
    exact ⟨hsees₁.value, hsees₁.index, hsees₁.other⟩
  have hinner : m.Inner (m₁.entered routine values) := by
    have hinner₁ : m₁.Inner (m₁.entered routine values) := hm₁.inner_entered hplain
    rw [hstepped] at hinner₁ ⊢
    exact ⟨hinner₁.rooted, hinner₁.deeper, hinner₁.declared⟩
  refine ⟨m₁.entered routine values, .body hdepth htick hparams, hlength, hsees, ?_, fun id hid => ?_⟩
  · intro calls a o key v ha hwrites
    have haInner : m.Inner a.machine := ha.invariant (fun h hb => h.inner hb) hinner
    exact (hwrites.inner haInner).writesFrom hm key v
  · exact scopes_of_call hdepth htick hparams hinner loc hid

/-- `{ c = a; }` in a function with the parameters `a` and `b`. -/
def storesFirst : Routine :=
  ⟨"f", ["a", "b"], .sequence [.assignment (.plain "c" .start) (.var (.plain "a" .start)) .start],
    .start⟩

/-- `a = 1; b = 2; f(b, a);` -/
def callsWithSwapped : Program :=
  ⟨[storesFirst, ⟨mainName, [], .sequence
      [.assignment (.plain "a" .start) (.literal 1 .start) .start,
        .assignment (.plain "b" .start) (.literal 2 .start) .start,
        .call "f" [.var (.plain "b" .start), .var (.plain "a" .start)] .start], .start⟩], []⟩

/-- The values of the two variables are exchanged, and the body writes a variable of the caller. -/
theorem calls_see_and_write_the_callers_scopes_swapped :
    let r := Runner.ofProgram callsWithSwapped [] ⟨none, 1, none⟩ false
    ∃ m n, Begins r.context ⟨1, .call storesFirst [2, 1] .start, m⟩
        ⟨0, .statement storesFirst.body, n⟩ ∧
      n.store.get? n.scope "a" = some 2 ∧ n.store.get? n.scope "b" = some 1 ∧
      n.store.get? n.scope (Slot.key "a" [0]) = some 0 ∧
      ∀ calls a o v, Reaches r.context ⟨0, .statement storesFirst.body, n⟩ calls a →
        Writes r.context a o "c" v → ¬ m.DeclaresSince o "c" →
          (final (save "c" v o)).store.get? m.scope "c" = some v := by
  intro r
  have hvisits : r.Visits 1 ⟨1, .value (.call "f" [.var (.plain "b" .start), .var (.plain "a" .start)]
      .start), _⟩ :=
    ⟨_, _, .main rfl rfl, .begins (.begins (.begins (.begins (.begins .self .sequence) (.rest rfl))
      (.rest rfl)) .first) (.alone rfl rfl)⟩
  obtain ⟨n, hbegins, -, hsees, hwrites, -⟩ := calls_see_and_write_the_callers_scopes callsWithSwapped
    [] ⟨none, 1, none⟩ false r .self hvisits (by decide) rfl rfl rfl (Nat.le_refl 1) rfl (by decide)
    (by decide)
  refine ⟨_, n, hbegins, hsees.value (i := 0) rfl rfl, hsees.value (i := 1) rfl rfl,
    hsees.index (by decide) (by decide), fun calls a o v ha hwritten hkey => ?_⟩
  obtain ⟨-, -, -, -, -, hread⟩ := (hwrites calls a o "c" v ha hwritten).through hkey
  exact hread

end Stepwise
