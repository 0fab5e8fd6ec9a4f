import Mathlib.Data.List.Chain
import Stepwise.Proofs.RenamedStore

/-!
# The tree of scopes

A scope may be created inside any scope that is alive, not only inside the one that was created last.
So the scopes do not form a chain in general but a tree, and the way from a scope out to the root
leaves some of them aside. It never comes to a scope that has been released, and it comes to an end:
a scope always lies in one with a smaller index, and only the last one is ever released.

The way outwards is stated as a relation, `Store.Outward`, which has no bound on its length. The walks
of the store, which have one, follow it to its end.

## Main results

* `Store.Arises.isTree`: the scopes of every store that arises form a tree.
* `Store.chainWithin?_eq_some_iff`: what a walk from a scope finds is the way outwards.
* `Store.IsTree.ownerWithin?_eq`: a slot belongs to the first scope on the way that declares its name.
* `Store.scopes_form_a_tree`: all of this for every store that arises.
-/

namespace Stepwise.Store

variable {names : String → Prop} {store store' : Store} {id : Nat}

/-! ## Section 1: How stores arise -/

/-- The stores that arise from the empty one by what can be done to the scopes that are alive, where
the names that are declared are among `names`. Reading a slot is no step, since it changes nothing. -/
inductive Arises (names : String → Prop) : Store → Prop where
  | empty : Arises names .empty
  /-- Creating a scope inside any other one. -/
  | push {store : Store} {parent : Nat} (h : Arises names store) (hparent : parent < store.depth) :
      Arises names (store.push parent)
  /-- Releasing the last scope, or doing nothing to the root alone. -/
  | pop {store : Store} (h : Arises names store) : Arises names store.pop
  | declare {store : Store} {id : Nat} {name : String} (h : Arises names store)
      (hid : id < store.depth) (hname : names name) : Arises names (store.declare id name)
  /-- Writing any slot as seen from a scope. -/
  | set {store : Store} {id : Nat} {key : String} {value : Int32} (h : Arises names store)
      (hid : id < store.depth) : Arises names (store.set id key value)

/-! ## Section 2: Every scope lies in an older one -/

/-- The scopes form a tree: the first one is the root, and every other one lies in a scope that was
created before it. -/
structure IsTree (store : Store) : Prop where
  root : store.parent? 0 = some none
  parent (id : Nat) (hpos : 0 < id) (hid : id < store.depth) :
    ∃ parent < id, store.parent? id = some (some parent)

theorem lt_depth_of_parent? {parent : Option Nat} (h : store.parent? id = some parent) :
    id < store.depth := by
  by_contra hle
  rw [parent?_eq_none (Nat.le_of_not_lt hle)] at h
  cases h

namespace IsTree

theorem depth_pos (h : store.IsTree) : 0 < store.depth :=
  lt_depth_of_parent? h.root

/-- Whether scopes form a tree depends on their parents only. -/
theorem of_parent? (h : store.IsTree) (hdepth : store'.depth = store.depth)
    (hparent : ∀ id, store'.parent? id = store.parent? id) : store'.IsTree := by
  constructor
  · exact (hparent 0).trans h.root
  · intro id hpos hid
    rw [hparent]
    exact h.parent id hpos (hdepth ▸ hid)

theorem empty : Store.empty.IsTree := by
  constructor
  · rfl
  · intro id hpos hid
    have hone : id < 1 := hid
    omega

theorem push (h : store.IsTree) {parent : Nat} (hparent : parent < store.depth) :
    (store.push parent).IsTree := by
  constructor
  · rw [parent?_push_of_lt parent h.depth_pos]
    exact h.root
  · intro id hpos hid
    rw [depth_push] at hid
    rcases Nat.lt_succ_iff_lt_or_eq.mp hid with hold | rfl
    · rw [parent?_push_of_lt parent hold]
      exact h.parent id hpos hold
    · -- The new scope has the greatest index, so its parent has a smaller one.
      exact ⟨parent, hparent, parent?_push store parent⟩

theorem pop (h : store.IsTree) : store.pop.IsTree := by
  by_cases hmany : 1 < store.depth
  · have hdepth := depth_pop hmany
    constructor
    · rw [parent?_pop hmany (by omega)]
      exact h.root
    · intro id hpos hid
      rw [hdepth] at hid
      rw [parent?_pop hmany hid]
      exact h.parent id hpos (by omega)
  · rw [Store.pop, if_neg hmany]
    exact h

end IsTree

/-- The scopes of a store that arises form a tree, whatever names are declared. -/
theorem Arises.isTree (h : store.Arises names) : store.IsTree := by
  induction h with
  | empty => exact .empty
  | push _ hparent ih => exact ih.push hparent
  | pop _ ih => exact ih.pop
  | declare _ _ _ ih => exact ih.of_parent? (depth_declare _ _ _) (parent?_declare _ _ _)
  | @set store id key value _ _ ih =>
    obtain ⟨hdepth, hparent, -⟩ := outline_set store id key value
    exact ih.of_parent? hdepth hparent

/-! ## Section 3: The way outwards -/

/-- The way from a scope out to the root: each scope on it lies in the next one, and the last one lies
in none. -/
inductive Outward (store : Store) : Nat → List Nat → Prop where
  | root {id : Nat} (h : store.parent? id = some none) : Outward store id [id]
  | inner {id parent : Nat} {ids : List Nat} (h : store.parent? id = some (some parent))
      (hrest : Outward store parent ids) : Outward store id (id :: ids)

theorem chainWithin?_succ (store : Store) (steps id : Nat) :
    store.chainWithin? (steps + 1) id =
      match store.parent? id with
      | none => none
      | some none => some [id]
      | some (some parent) => (store.chainWithin? steps parent).map (id :: ·) := by
  rw [chainWithin?, parent?]
  cases store.scopes[id]? with
  | none => rfl
  | some scope =>
    dsimp only [Option.map_some]
    cases scope.parent with
    | none => rfl
    | some parent => rfl

/-- A walk from a scope finds the way outwards, if that has no more scopes than there are steps. -/
theorem chainWithin?_eq_some_iff {steps : Nat} {ids : List Nat} :
    store.chainWithin? steps id = some ids ↔ store.Outward id ids ∧ ids.length ≤ steps := by
  constructor
  · intro h
    induction steps generalizing id ids with
    | zero => cases h
    | succ steps ih =>
      rw [chainWithin?_succ] at h
      split at h
      · cases h
      · next hroot =>
        cases h
        exact ⟨.root hroot, Nat.succ_le_succ (Nat.zero_le steps)⟩
      · next parent hparent =>
        obtain ⟨rest, hrest, rfl⟩ := Option.map_eq_some_iff.mp h
        obtain ⟨houtward, hlength⟩ := ih hrest
        exact ⟨.inner hparent houtward, Nat.succ_le_succ hlength⟩
  · rintro ⟨houtward, hlength⟩
    induction houtward generalizing steps with
    | root hroot =>
      obtain ⟨steps, rfl⟩ := Nat.exists_eq_add_of_le' hlength
      simp [chainWithin?_succ, hroot]
    | inner hparent _ ih =>
      obtain ⟨steps, rfl⟩ := Nat.exists_eq_add_of_le' (Nat.le_of_add_left_le hlength)
      rw [List.length_cons] at hlength
      have hrest := ih (Nat.le_of_succ_le_succ hlength)
      simp [chainWithin?_succ, hparent, hrest]

namespace Outward

variable {ids : List Nat}

theorem head?_eq (h : store.Outward id ids) : ids.head? = some id := by
  cases h with
  | root _ => rfl
  | inner _ _ => rfl

/-- Each scope on the way lies in the next one. -/
theorem isChain (h : store.Outward id ids) :
    ids.IsChain fun inner outer => store.parent? inner = some (some outer) := by
  induction h with
  | root _ => exact .singleton _
  | inner hparent hrest ih =>
    apply ih.cons
    rw [hrest.head?_eq]
    rintro outer ⟨⟩
    exact hparent

/-- All scopes on the way are alive. -/
theorem lt_depth (h : store.Outward id ids) : ∀ i ∈ ids, i < store.depth := by
  induction h with
  | root hroot => exact List.forall_mem_singleton.mpr (lt_depth_of_parent? hroot)
  | inner hparent _ ih => exact List.forall_mem_cons.mpr ⟨lt_depth_of_parent? hparent, ih⟩

end Outward

namespace IsTree

variable {ids : List Nat}

theorem lt_of_parent? (h : store.IsTree) {parent : Nat}
    (hparent : store.parent? id = some (some parent)) : parent < id := by
  rcases Nat.eq_zero_or_pos id with rfl | hpos
  · rw [h.root] at hparent
    cases hparent
  · obtain ⟨parent', hlt, hparent'⟩ := h.parent id hpos (lt_depth_of_parent? hparent)
    rw [hparent] at hparent'
    cases hparent'
    exact hlt

theorem eq_zero_of_parent? (h : store.IsTree) (hroot : store.parent? id = some none) : id = 0 := by
  rcases Nat.eq_zero_or_pos id with rfl | hpos
  · rfl
  · obtain ⟨parent, -, hparent⟩ := h.parent id hpos (lt_depth_of_parent? hroot)
    rw [hroot] at hparent
    cases hparent

/-- From every scope that is alive there is a way out to the root. -/
theorem exists_outward (h : store.IsTree) (hid : id < store.depth) : ∃ ids, store.Outward id ids := by
  -- The indices get smaller on the way.
  induction id using Nat.strongRecOn with
  | ind id ih =>
    rcases Nat.eq_zero_or_pos id with rfl | hpos
    · exact ⟨[0], .root h.root⟩
    · obtain ⟨parent, hlt, hparent⟩ := h.parent id hpos hid
      obtain ⟨ids, hids⟩ := ih parent hlt (Nat.lt_trans hlt hid)
      exact ⟨id :: ids, .inner hparent hids⟩

theorem length_le (h : store.IsTree) (hids : store.Outward id ids) : ids.length ≤ id + 1 := by
  induction hids with
  | root _ => exact Nat.succ_le_succ (Nat.zero_le _)
  | inner hparent _ ih =>
    have hlt := h.lt_of_parent? hparent
    rw [List.length_cons]
    omega

theorem getLast?_eq (h : store.IsTree) (hids : store.Outward id ids) : ids.getLast? = some 0 := by
  induction hids with
  | root hroot => rw [h.eq_zero_of_parent? hroot, List.getLast?_singleton]
  | inner _ _ ih => rw [List.getLast?_cons, ih, Option.getD_some]

theorem pairwise_gt (h : store.IsTree) (hids : store.Outward id ids) : ids.Pairwise (· > ·) := by
  have hchain : ids.IsChain (· > ·) := hids.isChain.imp fun _ _ => h.lt_of_parent?
  exact List.isChain_iff_pairwise.mp hchain

/-- The walk from a scope that is alive reaches the root. -/
theorem chain?_eq (h : store.IsTree) (hid : id < store.depth) (hids : store.Outward id ids) :
    store.chain? id = some ids :=
  chainWithin?_eq_some_iff.mpr ⟨hids, (h.length_le hids).trans hid⟩

end IsTree

/-! ## Section 4: Where a slot belongs -/

/-- Whether a name has been declared in a scope itself. -/
def declares (store : Store) (name : String) (id : Nat) : Bool :=
  (store.declared? id).any (·.contains name)

theorem ownerWithin?_succ (store : Store) (name : String) (steps id : Nat) :
    store.ownerWithin? name (steps + 1) id =
      match store.parent? id with
      | none => none
      | some none => some id
      | some (some parent) =>
        if store.declares name id then some id else store.ownerWithin? name steps parent := by
  rw [ownerWithin?, parent?, declares, declared?]
  cases store.scopes[id]? with
  | none => rfl
  | some scope =>
    dsimp only [Option.map_some]
    cases scope.parent with
    | none => rfl
    | some parent => rfl

/-- A slot belongs to the root or to a scope that has declared its name. -/
theorem declares_of_ownerWithin? {name : String} {steps owner : Nat}
    (h : store.ownerWithin? name steps id = some owner) :
    store.parent? owner = some none ∨ store.declares name owner = true := by
  induction steps generalizing id with
  | zero => cases h
  | succ steps ih =>
    rw [ownerWithin?_succ] at h
    split at h
    · cases h
    · next hroot =>
      cases h
      exact .inl hroot
    · split at h
      · next hdeclares =>
        cases h
        exact .inr hdeclares
      · exact ih h

/-- A walk that is long enough ends at the first scope on the way that has declared the name, or else at
the root. -/
theorem IsTree.ownerWithin?_eq (h : store.IsTree) {ids : List Nat} (hids : store.Outward id ids)
    {steps : Nat} (hsteps : ids.length ≤ steps) (name : String) :
    store.ownerWithin? name steps id = some ((ids.find? (store.declares name)).getD 0) := by
  induction hids generalizing steps with
  | root hroot =>
    obtain ⟨steps, rfl⟩ := Nat.exists_eq_add_of_le' hsteps
    obtain rfl := h.eq_zero_of_parent? hroot
    rw [List.length_singleton, ownerWithin?_succ, hroot, List.find?_singleton]
    cases store.declares name 0 with
    | true => rfl
    | false => rfl
  | @inner id parent ids hparent _ ih =>
    obtain ⟨steps, rfl⟩ := Nat.exists_eq_add_of_le' (Nat.le_of_add_left_le hsteps)
    rw [List.length_cons] at hsteps
    rw [ownerWithin?_succ, hparent, List.find?_cons]
    dsimp only
    cases hdeclares : store.declares name id with
    | true => rfl
    | false => exact ih (by omega)

theorem IsTree.owner?_eq (h : store.IsTree) (hid : id < store.depth) {ids : List Nat}
    (hids : store.Outward id ids) (key : String) :
    store.owner? id key = some ((ids.find? (store.declares (Slot.base key))).getD 0) :=
  h.ownerWithin?_eq hids ((h.length_le hids).trans hid) (Slot.base key)

/-! ## Section 5: What is stored has been declared -/

/-- What is stored in a scope other than the root has been declared there. -/
def StoresDeclared (store : Store) : Prop :=
  ∀ (id : Nat) (scope : Scope), 0 < id → store.scopes[id]? = some scope →
    ∀ key ∈ scope.values, scope.isDeclared (Slot.base key) = true

namespace StoresDeclared

theorem empty : Store.empty.StoresDeclared := by
  intro id scope hpos hscope
  obtain ⟨id, rfl⟩ := Nat.exists_eq_succ_of_ne_zero (Nat.ne_of_gt hpos)
  cases hscope

theorem push (h : store.StoresDeclared) (parent : Nat) : (store.push parent).StoresDeclared := by
  intro id scope hpos hscope key hkey
  rw [Store.push, Array.getElem?_push] at hscope
  split at hscope
  · -- Nothing is stored in the new scope.
    cases hscope
    simp at hkey
  · exact h id scope hpos hscope key hkey

theorem pop (h : store.StoresDeclared) : store.pop.StoresDeclared := by
  intro id scope hpos hscope
  apply h id scope hpos
  by_cases hmany : 1 < store.depth
  · rw [scopes_pop hmany, Array.getElem?_pop] at hscope
    split at hscope
    · exact hscope
    · cases hscope
  · rwa [Store.pop, if_neg hmany] at hscope

theorem declare (h : store.StoresDeclared) (id : Nat) {name : String} (hname : Slot.IsPlain name) :
    (store.declare id name).StoresDeclared := by
  have hbase : Slot.base (name ++ "") = name := Slot.base_append hname Slot.opens_empty
  rw [String.append_empty] at hbase
  intro id' scope' hpos hscope' key hkey
  rw [Store.declare, Array.getElem?_modify] at hscope'
  split at hscope'
  · obtain ⟨scope, hscope, rfl⟩ := Option.map_eq_some_iff.mp hscope'
    simp only [Scope.declare, Std.TreeMap.mem_insert, Std.compare_eq_iff_eq] at hkey
    simp only [Scope.isDeclared, Scope.declare, Std.TreeSet.contains_insert, Bool.or_eq_true,
      beq_iff_eq, Std.compare_eq_iff_eq]
    rcases hkey with rfl | hkey
    · exact .inl hbase.symm
    · exact .inr (h id' scope hpos hscope key hkey)
  · exact h id' scope' hpos hscope' key hkey

theorem set (h : store.StoresDeclared) (htree : store.IsTree) (id : Nat) (key : String)
    (value : Int32) : (store.set id key value).StoresDeclared := by
  unfold Store.set
  split
  · exact h
  · next owner howner =>
    intro id' scope' hpos hscope' key' hkey'
    rw [Array.getElem?_modify] at hscope'
    split at hscope'
    · next hsame =>
      obtain ⟨scope, hscope, rfl⟩ := Option.map_eq_some_iff.mp hscope'
      simp only [Scope.write, Std.TreeMap.mem_insert, Std.compare_eq_iff_eq] at hkey'
      rcases hkey' with rfl | hkey'
      · -- The scope is not the root, so the slot belongs to it because its name was declared there.
        rcases declares_of_ownerWithin? howner with hroot | hdeclares
        · rw [htree.eq_zero_of_parent? hroot] at hsame
          omega
        · rw [hsame, declares, declared?, hscope] at hdeclares
          exact hdeclares
      · exact h id' scope hpos hscope key' hkey'
    · exact h id' scope' hpos hscope' key' hkey'

end StoresDeclared

/-- Names without brackets are declared before anything is stored under them outside the root. -/
theorem Arises.storesDeclared (h : store.Arises Slot.IsPlain) : store.StoresDeclared := by
  induction h with
  | empty => exact .empty
  | push _ _ ih => exact ih.push _
  | pop _ ih => exact ih.pop
  | declare _ _ hname ih => exact ih.declare _ hname
  | set h _ ih => exact ih.set h.isTree _ _ _

/-! ## Section 6: All of it -/

/-- In every store that arises by declaring names without brackets, the scopes form a tree: the root is
alive and is the only scope without a parent, and every other scope lies in one with a smaller index. So
from every scope that is alive the walk outwards comes by scopes that are alive, in the order of falling
indices, and ends at the root; a slot belongs to the first of these scopes that has declared its name, or
else to the root; and what is stored in a scope other than the root has been declared there. -/
theorem scopes_form_a_tree {store : Store} (h : store.Arises Slot.IsPlain) :
    (store.isLive 0 = true ∧ store.parent? 0 = some none) ∧
    (∀ id, 0 < id → id < store.depth →
      ∃ parent < id, store.parent? id = some (some parent)) ∧
    (∀ id < store.depth, ∃ ids, store.chain? id = some ids ∧ store.Outward id ids ∧
      (∀ i ∈ ids, i < store.depth) ∧ ids.Pairwise (· > ·) ∧ ids.getLast? = some 0 ∧
      ∀ key, store.owner? id key =
        some ((ids.find? (store.declares (Slot.base key))).getD 0)) ∧
    ∀ (id : Nat) (scope : Scope), 0 < id → store.scopes[id]? = some scope →
      ∀ key ∈ scope.values, scope.isDeclared (Slot.base key) = true := by
  have htree := h.isTree
  refine ⟨⟨?_, htree.root⟩, htree.parent, ?_, h.storesDeclared⟩
  · exact decide_eq_true htree.depth_pos
  · intro id hid
    obtain ⟨ids, hids⟩ := htree.exists_outward hid
    exact ⟨ids, htree.chain?_eq hid hids, hids, hids.lt_depth, htree.pairwise_gt hids,
      htree.getLast?_eq hids, htree.owner?_eq hid hids⟩

/-- A store whose last scope does not lie in the one before it: an inner one has been released, and its
index is used again further out. -/
def branching : Store :=
  (((((Store.empty.push 0).push 0).push 2).pop.push 1).declare 1 "a").set 3 "a[2]" 5

theorem arises_branching : branching.Arises Slot.IsPlain := by
  have hpush : (((Store.empty.push 0).push 0).push 2).pop.Arises Slot.IsPlain :=
    .pop (.push (.push (.push .empty (by decide)) (by decide)) (by decide))
  exact .set (.declare (.push hpush (by decide)) (by decide) (by decide)) (by decide)

/-- From the last scope the way leads past the third one, and the slot belongs to the second one, where its
name has been declared. -/
theorem scopes_form_a_tree_branching :
    branching.chain? 3 = some [3, 1, 0] ∧ [3, 1, 0].Pairwise (· > ·) ∧
      branching.owner? 3 "a[2]" = some 1 ∧
      ∀ scope, branching.scopes[1]? = some scope → ∀ key ∈ scope.values,
        scope.isDeclared (Slot.base key) = true := by
  obtain ⟨-, -, hways, hstored⟩ := scopes_form_a_tree arises_branching
  obtain ⟨ids, hchain, -, -, hfalling, -, howner⟩ := hways 3 (by decide)
  have hids : branching.chain? 3 = some [3, 1, 0] := by decide
  rw [hids] at hchain
  obtain rfl := Option.some.inj hchain
  refine ⟨hids, hfalling, ?_, fun scope => hstored 1 scope Nat.one_pos⟩
  rw [howner]
  decide

end Stepwise.Store
