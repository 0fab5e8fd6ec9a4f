import Stepwise.Syntax.Node

/-!
# Trees up to places

Two trees that differ only in the places of their nodes mean the same program. `Node.unplaced`
forgets all places, so that `a.unplaced = b.unplaced` says that `a` and `b` are the same tree up to
places. The lemmas of the last section read the shape of a tree off its unplaced form.
-/

namespace Stepwise

mutual

/-- The tree with all its places moved to the start of the text. -/
def Node.unplaced : Node → Node
  | .sequence statements => .sequence (unplacedAll statements)
  | .empty => .empty
  | .literal value _ => .literal value .start
  | .var ref => .var (unplacedRef ref)
  | .call callee args _ => .call callee (unplacedAll args) .start
  | .unary op operand _ => .unary op operand.unplaced .start
  | .binary op left right _ => .binary op left.unplaced right.unplaced .start
  | .assignment target value _ => .assignment (unplacedRef target) value.unplaced .start
  | .input targets _ => .input (unplacedRefs targets) .start
  | .output items _ => .output (unplacedAll items) .start
  | .endl _ => .endl .start
  | .declaration name _ => .declaration name .start
  | .ifElse condition thenBranch elseBranch _ =>
    .ifElse condition.unplaced thenBranch.unplaced (unplacedElse elseBranch) .start
  | .whileLoop condition body _ => .whileLoop condition.unplaced body.unplaced .start
  | .forLoop init condition step body _ =>
    .forLoop init.unplaced condition.unplaced step.unplaced body.unplaced .start
  | .giveBack value _ => .giveBack value.unplaced .start
  | .block body _ => .block body.unplaced .start

/-- Each tree of a list without its places. -/
def unplacedAll : List Node → List Node
  | [] => []
  | node :: nodes => node.unplaced :: unplacedAll nodes

/-- A variable and its indices without their places. -/
def unplacedRef : Reference Node → Reference Node
  | ⟨name, indices, _⟩ => ⟨name, unplacedAll indices, .start⟩

/-- Each variable of a list without its places. -/
def unplacedRefs : List (Reference Node) → List (Reference Node)
  | [] => []
  | ref :: refs => unplacedRef ref :: unplacedRefs refs

/-- The other branch, if there is one, without its places. -/
def unplacedElse : Option Node → Option Node
  | none => none
  | some node => some node.unplaced

end

/-! ## Lists of trees -/

theorem unplacedAll_eq_map (nodes : List Node) : unplacedAll nodes = nodes.map Node.unplaced := by
  induction nodes with
  | nil => rfl
  | cons node nodes ih => rw [unplacedAll, ih, List.map_cons]

theorem unplacedRefs_eq_map (refs : List (Reference Node)) :
    unplacedRefs refs = refs.map unplacedRef := by
  induction refs with
  | nil => rfl
  | cons ref refs ih => rw [unplacedRefs, ih, List.map_cons]

@[simp] theorem unplacedAll_append (xs ys : List Node) :
    unplacedAll (xs ++ ys) = unplacedAll xs ++ unplacedAll ys := by
  simp only [unplacedAll_eq_map, List.map_append]

@[simp] theorem unplacedRefs_append (xs ys : List (Reference Node)) :
    unplacedRefs (xs ++ ys) = unplacedRefs xs ++ unplacedRefs ys := by
  simp only [unplacedRefs_eq_map, List.map_append]

/-! ## What the unplaced form says about a tree -/

/-- Only a variable looks like a variable without its places. -/
theorem Node.exists_var_of_unplaced {node : Node} {name : String} {indices : List Node}
    {loc : Location} (h : node.unplaced = (Node.var ⟨name, indices, loc⟩).unplaced) :
    ∃ indices' loc', node = .var ⟨name, indices', loc'⟩ ∧
      unplacedAll indices' = unplacedAll indices := by
  cases node <;> simp only [Node.unplaced, reduceCtorEq] at h
  case var ref =>
    obtain ⟨name', indices', loc'⟩ := ref
    simp only [unplacedRef, Node.var.injEq, Reference.mk.injEq] at h
    obtain ⟨rfl, hindices, -⟩ := h
    exact ⟨indices', loc', rfl, hindices⟩

/-- Only reading from the input looks like it without its places. -/
theorem Node.exists_input_of_unplaced {node : Node} {targets : List (Reference Node)}
    {loc : Location} (h : node.unplaced = (Node.input targets loc).unplaced) :
    ∃ targets' loc', node = .input targets' loc' ∧
      unplacedRefs targets' = unplacedRefs targets := by
  cases node <;> simp only [Node.unplaced, reduceCtorEq] at h
  case input targets' loc' =>
    simp only [Node.input.injEq] at h
    exact ⟨targets', loc', rfl, h.1⟩

/-- Only printing looks like it without its places. -/
theorem Node.exists_output_of_unplaced {node : Node} {items : List Node}
    {loc : Location} (h : node.unplaced = (Node.output items loc).unplaced) :
    ∃ items' loc', node = .output items' loc' ∧ unplacedAll items' = unplacedAll items := by
  cases node <;> simp only [Node.unplaced, reduceCtorEq] at h
  case output items' loc' =>
    simp only [Node.output.injEq] at h
    exact ⟨items', loc', rfl, h.1⟩

end Stepwise
