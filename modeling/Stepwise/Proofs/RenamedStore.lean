import Mathlib.Data.List.TakeWhile
import Stepwise.Proofs.ScopeDiscipline

/-!
# Stores with other names

A value is kept under a key, which is a text: the name of its variable and then its indices in brackets.
If the names of variables have no brackets, then a key can be taken apart again in one way only, and
keys of different variables never meet. So variables can be given other names: a key gets the new name
and keeps its indices, every slot of the store belongs to the same scope as before, and it holds the
same value.

## Main results

* `Slot.isRenaming_rename`: other names for variables are other keys for slots.
* `Store.Renamed.owner?`: a slot belongs to the same scope.
* `Store.Renamed.get`, `Store.Renamed.set`, `Store.Renamed.declare`: what is done to both stores.
-/

namespace Stepwise

/-! ## Section 1: Keys -/

namespace Slot

/-- Whether a text has no bracket in it, as the name of a variable should. -/
def IsPlain (name : String) : Prop :=
  '[' ∉ name.toList

instance (name : String) : Decidable (IsPlain name) :=
  inferInstanceAs (Decidable ('[' ∉ name.toList))

/-- Whether a text is empty or begins with a bracket, as the indices of a key do. -/
def Opens (text : String) : Prop :=
  ∀ c ∈ text.toList.head?, c = '['

/-- What a key has after its name: all from its first bracket on. -/
def indexing (key : String) : String :=
  String.ofList (key.toList.dropWhile (· != '['))

/-- The key with another name and the same indices. -/
def rename (ρ : String → String) (key : String) : String :=
  ρ (base key) ++ indexing key

theorem isPlain_append {s t : String} (hs : IsPlain s) (ht : IsPlain t) : IsPlain (s ++ t) := by
  unfold IsPlain
  rw [String.toList_append, List.mem_append]
  exact not_or.mpr ⟨hs, ht⟩

/-- The name in a key ends before the first bracket. -/
theorem isPlain_base (key : String) : IsPlain (base key) := by
  intro h
  rw [base, String.toList_ofList] at h
  simpa using List.mem_takeWhile_imp h

/-- The indices in a key begin with the first bracket. -/
theorem opens_indexing (key : String) : Opens (indexing key) := by
  intro c hc
  have hhead := List.head?_dropWhile_not (· != '[') key.toList
  rw [indexing, String.toList_ofList] at hc
  rw [Option.mem_def.mp hc] at hhead
  simpa using hhead

/-- A key is its name and what follows. -/
theorem base_append_indexing (key : String) : base key ++ indexing key = key := by
  rw [base, indexing, ← String.ofList_append, List.takeWhile_append_dropWhile, String.ofList_toList]

/-- A key is taken apart in one way only. -/
theorem base_append {name text : String} (hname : IsPlain name) (htext : Opens text) :
    base (name ++ text) = name := by
  -- The name is passed over as a whole, since it has no bracket.
  have hall : ∀ c ∈ name.toList, (c != '[') = true := by
    intro c hc
    rw [bne_iff_ne]
    rintro rfl
    exact hname hc
  -- What follows it is nothing or begins with a bracket, and so the search stops there.
  have hnone : text.toList.takeWhile (· != '[') = [] := by
    unfold Opens at htext
    cases htext' : text.toList with
    | nil => rfl
    | cons c cs => simp [htext c (by simp [htext'])]
  rw [base, String.toList_append, List.takeWhile_append_of_pos hall, hnone, List.append_nil,
    String.ofList_toList]

/-- The other part of a key is found again as well. -/
theorem indexing_append {name text : String} (hname : IsPlain name) (htext : Opens text) :
    indexing (name ++ text) = text := by
  have hwhole := base_append_indexing (name ++ text)
  rwa [base_append hname htext, String.append_right_inj] at hwhole

theorem opens_empty : Opens "" := by
  simp [Opens]

/-- Text that is added after indices, or after nothing, does not change how they begin. -/
theorem Opens.append {s t : String} (hs : Opens s) (ht : Opens t) : Opens (s ++ t) := by
  intro c hc
  rw [String.toList_append] at hc
  cases hs' : s.toList with
  | nil =>
    -- Nothing in front: the whole begins as the second text does.
    exact ht c (by simpa [hs'] using hc)
  | cons d ds =>
    -- Otherwise it begins as the first one does.
    exact hs c (by simpa [hs'] using hc)

theorem opens_indexText (index : Int32) : Opens (indexText index) := by
  simp [Opens, indexText]

/-- The indices of an element are written in brackets, one after the other. -/
theorem opens_join_indexText (indices : List Int32) :
    Opens (String.join (indices.map indexText)) := by
  induction indices with
  | nil => exact opens_empty
  | cons index indices ih =>
    rw [List.map_cons, String.join_cons]
    exact (opens_indexText index).append ih

/-- Other keys for the slots of a store: they stay apart, and they go with other names. -/
structure IsRenaming (f : String → String) : Prop where
  injective : Function.Injective f
  base_apply (key : String) : base (f key) = f (base key)
  apply_key (name : String) (indices : List Int32) : f (key name indices) = key (f name) indices

variable {ρ : String → String}

/-- The name in front is changed, the indices behind it are not. -/
theorem rename_append {name text : String} (hname : IsPlain name) (htext : Opens text) :
    rename ρ (name ++ text) = ρ name ++ text := by
  rw [rename, base_append hname htext, indexing_append hname htext]

/-- A key without indices is a name, and gets the new one. -/
theorem rename_of_isPlain {name : String} (h : IsPlain name) : rename ρ name = ρ name := by
  have hempty : rename ρ (name ++ "") = ρ name ++ "" := rename_append h opens_empty
  simpa using hempty

/-- Names without brackets that stay apart, and stay without brackets, give other keys. -/
theorem isRenaming_rename (hplain : ∀ name, IsPlain name → IsPlain (ρ name))
    (hinj : ∀ name name', IsPlain name → IsPlain name' → ρ name = ρ name' → name = name') :
    IsRenaming (rename ρ) := by
  have hbase : ∀ key, base (rename ρ key) = ρ (base key) := fun key =>
    base_append (hplain _ (isPlain_base key)) (opens_indexing key)
  have hindexing : ∀ key, indexing (rename ρ key) = indexing key := fun key =>
    indexing_append (hplain _ (isPlain_base key)) (opens_indexing key)
  refine ⟨?_, ?_, ?_⟩
  · -- Equal keys have equal names before the first bracket, and equal indices from there on.
    intro key key' h
    have hname : base key = base key' := by
      apply hinj _ _ (isPlain_base key) (isPlain_base key')
      rw [← hbase, ← hbase, h]
    calc key = base key ++ indexing key := (base_append_indexing key).symm
      _ = base key' ++ indexing key' := by rw [hname, ← hindexing key, h, hindexing key']
      _ = key' := base_append_indexing key'
  · -- The name of a new key is what the old name alone would have become.
    intro key
    rw [hbase, rename_of_isPlain (isPlain_base key)]
  · -- The indices of a key go on where those of the name end, if it has any.
    intro name indices
    have hindices := opens_join_indexText indices
    have hname := (opens_indexing name).append hindices
    calc rename ρ (name ++ String.join (indices.map indexText))
        = rename ρ (base name ++ (indexing name ++ String.join (indices.map indexText))) := by
          rw [← String.append_assoc, base_append_indexing]
      _ = ρ (base name) ++ (indexing name ++ String.join (indices.map indexText)) :=
          rename_append (isPlain_base name) hname
      _ = rename ρ name ++ String.join (indices.map indexText) := String.append_assoc.symm

end Slot

/-! ## Section 2: Scopes -/

/-- The same scope under other names: the same is declared in it, and the same values are there. -/
structure Scope.Renamed (f : String → String) (scope scope' : Scope) : Prop where
  parent : scope'.parent = scope.parent
  isDeclared (name : String) : scope'.isDeclared (f name) = scope.isDeclared name
  value (key : String) : scope'.values.getD (f key) 0 = scope.values.getD key 0

variable {f : String → String}

/-- Keys that are different stay different, so that each one is found where it was put. -/
theorem Slot.IsRenaming.compare_apply (hf : Slot.IsRenaming f) (key other : String) :
    compare (f key) (f other) = .eq ↔ compare key other = .eq := by
  rw [Std.compare_eq_iff_eq, Std.compare_eq_iff_eq, hf.injective.eq_iff]

/-- Values are found alike after one has been written. -/
theorem Scope.getD_insert_apply (hf : Slot.IsRenaming f) {values values' : Std.TreeMap String Int32}
    (h : ∀ key, values'.getD (f key) 0 = values.getD key 0) (key : String) (value : Int32)
    (other : String) :
    (values'.insert (f key) value).getD (f other) 0 = (values.insert key value).getD other 0 := by
  simp only [Std.TreeMap.getD_insert, hf.compare_apply, h]

namespace Scope.Renamed

variable {scope scope' : Scope}

/-- A scope in which nothing has been declared looks alike under all names. -/
theorem fresh (parent : Option Nat) :
    Scope.Renamed f { parent := parent } { parent := parent } := by
  refine ⟨rfl, fun name => ?_, fun key => ?_⟩
  · simp [Scope.isDeclared]
  · simp

theorem write (hf : Slot.IsRenaming f) (h : scope.Renamed f scope') (key : String) (value : Int32) :
    (scope.write key value).Renamed f (scope'.write (f key) value) where
  parent := h.parent
  isDeclared := h.isDeclared
  value := Scope.getD_insert_apply hf h.value key value

theorem declare (hf : Slot.IsRenaming f) (h : scope.Renamed f scope') (name : String) :
    (scope.declare name).Renamed f (scope'.declare (f name)) where
  parent := h.parent
  isDeclared other := by
    have hother := h.isDeclared other
    unfold Scope.isDeclared Scope.declare at *
    -- A name is declared afterwards if it was before or is the new one, and the renaming tells names apart.
    rw [Bool.eq_iff_iff, Std.TreeSet.contains_insert, Std.TreeSet.contains_insert, hother]
    simp only [Bool.or_eq_true, beq_iff_eq, hf.compare_apply]
  value := Scope.getD_insert_apply hf h.value name 0

end Scope.Renamed

/-! ## Section 3: Stores -/

/-- The same store under other names, scope by scope. -/
structure Store.Renamed (f : String → String) (store store' : Store) : Prop where
  depth : store'.depth = store.depth
  scopes (id : Nat) : Option.Rel (Scope.Renamed f) store.scopes[id]? store'.scopes[id]?

namespace Store.Renamed

variable {store store' : Store}

/-- The root, with nothing declared in it. -/
theorem empty : Store.Renamed f .empty .empty := by
  refine ⟨rfl, fun id => ?_⟩
  cases id with
  | zero =>
    -- The root, which lies in no other scope.
    exact .some (.fresh none)
  | succ id =>
    -- No other scope is alive yet.
    exact .none

/-- One scope is changed on both sides. -/
theorem modify (h : store.Renamed f store') (id : Nat) {g g' : Scope → Scope}
    (hg : ∀ {scope scope'}, scope.Renamed f scope' → (g scope).Renamed f (g' scope')) :
    Store.Renamed f ⟨store.scopes.modify id g⟩ ⟨store'.scopes.modify id g'⟩ := by
  refine ⟨?_, fun other => ?_⟩
  · simpa [Store.depth] using h.depth
  · have hscope := h.scopes other
    rw [Array.getElem?_modify, Array.getElem?_modify]
    split
    · -- The scope that is changed, if it is alive.
      generalize store.scopes[other]? = scope? at hscope
      generalize store'.scopes[other]? = scope?' at hscope
      cases hscope with
      | none => exact .none
      | some hscope => exact .some (hg hscope)
    · exact hscope

/-- A new scope is put in the same place on both sides. -/
theorem push (h : store.Renamed f store') (parent : Nat) :
    (store.push parent).Renamed f (store'.push parent) := by
  have hdepth : store'.scopes.size = store.scopes.size := h.depth
  refine ⟨?_, fun id => ?_⟩
  · rw [depth_push, depth_push, h.depth]
  · unfold Store.push
    rw [Array.getElem?_push, Array.getElem?_push, hdepth]
    split
    · -- The new scope.
      exact .some (.fresh (some parent))
    · exact h.scopes id

/-- The last scope is released on both sides, or on none if it is the root. -/
theorem pop (h : store.Renamed f store') : store.pop.Renamed f store'.pop := by
  have hdepth : store'.scopes.size = store.scopes.size := h.depth
  by_cases hroot : 1 < store.depth
  · have hroot' : 1 < store'.depth := h.depth ▸ hroot
    refine ⟨?_, fun id => ?_⟩
    · rw [depth_pop hroot, depth_pop hroot', h.depth]
    · rw [scopes_pop hroot, scopes_pop hroot', Array.getElem?_pop, Array.getElem?_pop, hdepth]
      split
      · exact h.scopes id
      · exact .none
  · -- The root is released on neither side.
    have hroot' : ¬ 1 < store'.depth := h.depth ▸ hroot
    rw [Store.pop, if_neg hroot, Store.pop, if_neg hroot']
    exact h

/-- The way outwards ends at the same scope, since each scope on it has declared the same names. -/
theorem ownerWithin? (h : store.Renamed f store') (name : String) (steps id : Nat) :
    store'.ownerWithin? (f name) steps id = store.ownerWithin? name steps id := by
  -- On every scope of the way both sides ask for the same name and go on to the same parent.
  induction steps generalizing id with
  | zero => rfl
  | succ steps ih =>
    have hscope := h.scopes id
    rw [Store.ownerWithin?, Store.ownerWithin?]
    generalize store.scopes[id]? = scope? at hscope
    generalize store'.scopes[id]? = scope?' at hscope
    cases hscope with
    | none => rfl
    | some hscope =>
      dsimp only
      rw [hscope.parent, hscope.isDeclared]
      simp only [ih]

variable (hf : Slot.IsRenaming f)
include hf

/-- The scope that a slot belongs to goes by the name in its key. -/
theorem owner? (h : store.Renamed f store') (id : Nat) (key : String) :
    store'.owner? id (f key) = store.owner? id key := by
  unfold Store.owner?
  rw [hf.base_apply, h.depth, h.ownerWithin?]

/-- A slot holds the same value under its new key. -/
theorem get (h : store.Renamed f store') (id : Nat) (key : String) :
    store'.get id (f key) = store.get id key := by
  unfold Store.get Store.get?
  rw [h.owner? hf]
  cases store.owner? id key with
  | none =>
    -- A slot that belongs to no scope has no value on either side.
    rfl
  | some owner =>
    have hscope := h.scopes owner
    dsimp only
    generalize store.scopes[owner]? = scope? at hscope
    generalize store'.scopes[owner]? = scope?' at hscope
    cases hscope with
    | none => rfl
    | some hscope => exact hscope.value key

/-- An assignment is found under the new key afterwards. -/
theorem set (h : store.Renamed f store') (id : Nat) (key : String) (value : Int32) :
    (store.set id key value).Renamed f (store'.set id (f key) value) := by
  unfold Store.set
  rw [h.owner? hf]
  split
  · exact h
  · exact h.modify _ (·.write hf key value)

/-- A declaration is found under the new name afterwards. -/
theorem declare (h : store.Renamed f store') (id : Nat) (name : String) :
    (store.declare id name).Renamed f (store'.declare id (f name)) :=
  h.modify id (·.declare hf name)

end Store.Renamed

end Stepwise
