import Stepwise.Proofs.Decimals
import Stepwise.Proofs.ScopeTree

/-!
# What slots hold

A slot holds what was written to it last. This takes two things. Keys must tell slots apart: a key is a
text, and two different lists of indices, or two different names, must never be written alike. And two
scopes must agree on where a slot belongs, which does not change when values are written, because it is
a matter of parents and declarations only.

## Main results

* `Slot.key_inj`: a key is written in one way only.
* `Store.owner?_set`: writing does not change where slots belong.
* `Store.slots_hold_what_was_written`: what is read after a slot has been written.
-/

namespace Stepwise

/-! ## Section 1: Keys -/

namespace Slot

theorem base_key {name : String} (h : IsPlain name) (indices : List Int32) :
    base (key name indices) = name :=
  base_append h (opens_join_indexText indices)

/-- An index does not close its own bracket. -/
theorem ne_closing_of_mem_decimal {index : Int32} {c : Char}
    (h : c ∈ (Text.decimal index).toList) : (c != ']') = true := by
  rw [bne_iff_ne]
  rintro rfl
  rcases Text.isDigit_or_eq_of_mem_decimal h with hdigit | hsign
  · exact absurd hdigit (by decide)
  · exact absurd hsign (by decide)

/-- So an index reaches up to the first closing bracket. -/
theorem takeWhile_decimal (index : Int32) (rest : List Char) :
    ((Text.decimal index).toList ++ ']' :: rest).takeWhile (· != ']') =
      (Text.decimal index).toList := by
  rw [List.takeWhile_append_of_pos fun c => ne_closing_of_mem_decimal]
  simp

theorem toList_join_cons (index : Int32) (indices : List Int32) :
    (String.join ((index :: indices).map indexText)).toList =
      '[' :: ((Text.decimal index).toList ++ ']' :: (String.join (indices.map indexText)).toList) := by
  simp [indexText, String.join_cons]

/-- Different indices are written differently. -/
theorem join_indexText_injective :
    Function.Injective fun indices : List Int32 => String.join (indices.map indexText) := by
  intro is js h
  have hlists := congrArg String.toList h
  dsimp only at hlists
  clear h
  induction is generalizing js with
  | nil =>
    cases js with
    | nil => rfl
    | cons j js =>
      rw [toList_join_cons] at hlists
      simp at hlists
  | cons i is ih =>
    cases js with
    | nil =>
      rw [toList_join_cons] at hlists
      simp at hlists
    | cons j js =>
      rw [toList_join_cons, toList_join_cons] at hlists
      have hafter := List.cons_injective hlists
      have hfirst := congrArg (List.takeWhile (· != ']')) hafter
      rw [takeWhile_decimal, takeWhile_decimal] at hfirst
      rw [hfirst] at hafter
      have hrest := List.cons_injective (List.append_cancel_left hafter)
      rw [ih hrest, Text.decimal_injective (String.toList_injective hfirst)]

/-- A key is written in one way only: for one name and one list of indices. -/
theorem key_inj {a b : String} (ha : IsPlain a) (hb : IsPlain b) {is js : List Int32} :
    key a is = key b js ↔ a = b ∧ is = js := by
  constructor
  · intro h
    have hname : a = b := by rw [← base_key ha is, h, base_key hb js]
    have hindexing := congrArg indexing h
    rw [key, indexing_append ha (opens_join_indexText is), key,
      indexing_append hb (opens_join_indexText js)] at hindexing
    exact ⟨hname, join_indexText_injective hindexing⟩
  · rintro ⟨rfl, rfl⟩
    rfl

end Slot

namespace Store

variable {store store' : Store}

/-! ## Section 2: Where slots belong -/

/-- Where a slot belongs is a matter of parents and declarations. -/
theorem ownerWithin?_congr (hparent : ∀ id, store'.parent? id = store.parent? id)
    (hdeclared : ∀ id, store'.declared? id = store.declared? id) (name : String) (steps id : Nat) :
    store'.ownerWithin? name steps id = store.ownerWithin? name steps id := by
  induction steps generalizing id with
  | zero => rfl
  | succ steps ih =>
    rw [ownerWithin?_succ, ownerWithin?_succ, hparent, declares, declares, hdeclared]
    simp only [ih]

/-- Writing does not change where slots belong. -/
theorem owner?_set (store : Store) (s : Nat) (key : String) (value : Int32) (t : Nat)
    (other : String) : (store.set s key value).owner? t other = store.owner? t other := by
  obtain ⟨hdepth, hparent, hdeclared⟩ := outline_set store s key value
  rw [owner?, owner?, hdepth, ownerWithin?_congr hparent hdeclared]

/-- A slot with indices belongs where the name alone belongs. -/
theorem owner?_key (store : Store) (id : Nat) {name : String} (h : Slot.IsPlain name)
    (indices : List Int32) : store.owner? id (Slot.key name indices) = store.owner? id name := by
  have hname := Slot.base_key h []
  rw [Slot.key_nil] at hname
  rw [owner?, owner?, Slot.base_key h, hname]

/-- As seen from a scope that is alive, every slot belongs to a scope that is alive. -/
theorem IsTree.exists_owner? (h : store.IsTree) {id : Nat} (hid : id < store.depth) (key : String) :
    ∃ owner < store.depth, store.owner? id key = some owner := by
  obtain ⟨ids, hids⟩ := h.exists_outward hid
  refine ⟨_, ?_, h.owner?_eq hid hids key⟩
  cases hfind : ids.find? (store.declares (Slot.base key)) with
  | none => exact h.depth_pos
  | some owner => exact hids.lt_depth owner (List.mem_of_find?_eq_some hfind)

/-! ## Section 3: Reading and writing -/

section

variable {s t owner owner' : Nat} {key key' : String}

/-- Reading gives what the scope has that the slot belongs to. -/
theorem get?_of_owner? (h : store.owner? t key = some owner) :
    store.get? t key = store.scopes[owner]?.map fun scope => scope.values.getD key 0 := by
  rw [get?, h]

/-- What can be read can be read in either way. -/
theorem get?_eq_some_get (h : store.owner? t key = some owner) (howner : owner < store.depth) :
    store.get? t key = some (store.get t key) := by
  rw [get, get?_of_owner? h, Array.getElem?_eq_getElem howner]
  rfl

/-- After a slot has been written, the same slot holds the value, and every other one what it held. -/
theorem get?_set (hs : store.owner? s key = some owner) (ht : store.owner? t key' = some owner')
    (howner : owner' < store.depth) (value : Int32) :
    (store.set s key value).get? t key' =
      some (if owner = owner' ∧ key = key' then value else store.get t key') := by
  have hbefore := get?_eq_some_get ht howner
  rw [get?_of_owner? ht] at hbefore
  rw [get?_of_owner? ((owner?_set store s key value t key').trans ht), set, hs]
  dsimp only
  rw [Array.getElem?_modify]
  by_cases hsame : owner = owner'
  · -- The two slots are in one scope, and there it is the keys that matter.
    obtain ⟨scope, hscope, hvalue⟩ := Option.map_eq_some_iff.mp hbefore
    rw [if_pos hsame, hscope, Option.map_some, Option.map_some, Scope.write, Std.TreeMap.getD_insert,
      hvalue]
    simp only [hsame, true_and, Std.compare_eq_iff_eq]
  · rw [if_neg hsame, hbefore, if_neg fun h => hsame h.1]

end

/-- A slot holds what was written to it last. In every store that arises, whatever names are declared,
and as seen from any two scopes that are alive: a key is written in one way only, every slot belongs to a
scope that is alive and can be read, and after a slot has been written it is read with the new value if
the names are equal, the indices are equal and the name belongs to the same scope from both. In all other
cases the slot that is read holds what it held before. -/
theorem slots_hold_what_was_written {names : String → Prop} {store : Store} (h : store.Arises names)
    {s t : Nat} (hs : s < store.depth) (ht : t < store.depth) {a b : String} (ha : Slot.IsPlain a)
    (hb : Slot.IsPlain b) (is js : List Int32) (v : Int32) :
    (Slot.key a is = Slot.key b js ↔ a = b ∧ is = js) ∧
    (∃ owner < store.depth, store.owner? s a = some owner) ∧
    (∃ owner < store.depth, store.owner? t a = some owner) ∧
    store.get? t (Slot.key b js) = some (store.get t (Slot.key b js)) ∧
    (store.set s (Slot.key a is) v).get? t (Slot.key b js) =
      some (if a = b ∧ is = js ∧ store.owner? s a = store.owner? t a then v
        else store.get t (Slot.key b js)) := by
  have hkey : Slot.key a is = Slot.key b js ↔ a = b ∧ is = js := Slot.key_inj ha hb
  obtain ⟨owner, howner, hsa⟩ := h.isTree.exists_owner? hs a
  obtain ⟨owner', howner', htb⟩ := h.isTree.exists_owner? ht b
  have hwritten := (owner?_key store s ha is).trans hsa
  have hread := (owner?_key store t hb js).trans htb
  refine ⟨hkey, ⟨owner, howner, hsa⟩, h.isTree.exists_owner? ht a,
    get?_eq_some_get hread howner', ?_⟩
  have hcondition : (owner = owner' ∧ Slot.key a is = Slot.key b js) ↔
      (a = b ∧ is = js ∧ store.owner? s a = store.owner? t a) := by
    rw [hkey]
    constructor
    · rintro ⟨rfl, rfl, rfl⟩
      exact ⟨rfl, rfl, hsa.trans htb.symm⟩
    · -- The slots are slots of one name, and so they belong where the name belongs.
      rintro ⟨rfl, rfl, hsame⟩
      rw [hsa, htb] at hsame
      exact ⟨Option.some.inj hsame, rfl, rfl⟩
  rw [get?_set hwritten hread howner']
  simp only [hcondition]

/-- An array that belongs to an inner scope is written from a scope inside that: the inner scope sees the
value, and the root, which has an array of the same name, does not. -/
theorem slots_hold_what_was_written_branching :
    (branching.set 3 (Slot.key "a" [-1, 2]) 8).get? 1 (Slot.key "a" [-1, 2]) = some 8 ∧
      (branching.set 3 (Slot.key "a" [-1, 2]) 8).get? 1 (Slot.key "a" [-1]) = some 0 ∧
      (branching.set 3 (Slot.key "a" [-1, 2]) 8).get? 0 (Slot.key "a" [-1, 2]) = some 0 := by
  have hplain : Slot.IsPlain "a" := by decide
  have hlaw (t : Nat) (ht : t < branching.depth) (js : List Int32) :=
    (slots_hold_what_was_written arises_branching (s := 3) (by decide) ht hplain hplain [-1, 2] js
      8).2.2.2.2
  refine ⟨?_, ?_, ?_⟩
  · rw [hlaw 1 (by decide)]
    decide
  · rw [hlaw 1 (by decide)]
    decide
  · rw [hlaw 0 (by decide)]
    decide

end Store

end Stepwise
