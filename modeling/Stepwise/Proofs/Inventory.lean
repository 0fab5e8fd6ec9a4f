import Mathlib.Algebra.BigOperators.Group.List.Basic
import Mathlib.Algebra.Order.Group.Multiset
import Mathlib.Tactic.Abel
import Stepwise.Proofs.ExpressionReading
import Stepwise.Proofs.Shape

/-!
# What becomes of the tokens of an expression

Every token of an expression that can be read is found again in its tree, and once. Words and
numerals are its leaves, from left to right. Operators are its inner nodes, each at the place of its
token. The stream operators and the opening brackets of indices leave no node of their own, but as
many items, targets and indices as there are tokens.

This holds for every list of tokens that is accepted, however odd, because it is kept by each single
step. Applying an operator and closing a bracket take operands that lie on top of each other and put
one in their place, so that the leaves of all operands, from the bottom of the stack to its top,
stay as they are. The operator itself goes from the one stack into the tree on the other.

What is counted is a parameter: a weight for each kind of token, in any commutative monoid. Counting
items, targets and indices are three choices of it, and collecting operators with their places is a
fourth.

## Main results

* `Applied.frontier`, `Applied.weight`: what applying an operator keeps.
* `took_step`, `steps_keep`: what tokens add to the stacks.
* `read_keeps_tokens`: the leaves, operators, items, targets and indices of a tree that has been
  read.
-/

namespace Stepwise

/-! ## Section 1: The nodes of a tree -/

mutual

/-- The nodes of a tree from left to right, each of them before its parts. A variable that is
assigned or read into is one of them. -/
@[simp] def Node.parts : Node → List Node
  | .sequence statements => .sequence statements :: partsOfAll statements
  | .empty => [.empty]
  | .literal value loc => [.literal value loc]
  | .var ref => partsOfRef ref
  | .call callee args loc => .call callee args loc :: partsOfAll args
  | .unary op operand loc => .unary op operand loc :: operand.parts
  | .binary op left right loc => .binary op left right loc :: (left.parts ++ right.parts)
  | .assignment target value loc =>
    .assignment target value loc :: (partsOfRef target ++ value.parts)
  | .input targets loc => .input targets loc :: partsOfRefs targets
  | .output items loc => .output items loc :: partsOfAll items
  | .endl loc => [.endl loc]
  | .declaration name loc => [.declaration name loc]
  | .ifElse condition thenBranch elseBranch loc =>
    .ifElse condition thenBranch elseBranch loc ::
      (condition.parts ++ thenBranch.parts ++ partsOfElse elseBranch)
  | .whileLoop condition body loc =>
    .whileLoop condition body loc :: (condition.parts ++ body.parts)
  | .forLoop init condition step body loc =>
    .forLoop init condition step body loc ::
      (init.parts ++ condition.parts ++ step.parts ++ body.parts)
  | .giveBack value loc => .giveBack value loc :: value.parts
  | .block body loc => .block body loc :: body.parts

/-- The nodes of several trees. -/
@[simp] def partsOfAll : List Node → List Node
  | [] => []
  | node :: nodes => node.parts ++ partsOfAll nodes

/-- The nodes of a variable: itself and those of its indices. -/
@[simp] def partsOfRef : Reference Node → List Node
  | ⟨name, indices, loc⟩ => .var ⟨name, indices, loc⟩ :: partsOfAll indices

/-- The nodes of several variables. -/
@[simp] def partsOfRefs : List (Reference Node) → List Node
  | [] => []
  | ref :: refs => partsOfRef ref ++ partsOfRefs refs

/-- The nodes of the other branch, if there is one. -/
def partsOfElse : Option Node → List Node
  | none => []
  | some node => node.parts

end

theorem partsOfAll_eq_flatMap (nodes : List Node) :
    partsOfAll nodes = nodes.flatMap Node.parts := by
  induction nodes with
  | nil => rfl
  | cons node nodes ih => simp [partsOfAll, ih]

theorem partsOfRef_eq (ref : Reference Node) :
    partsOfRef ref = .var ref :: ref.indices.flatMap Node.parts := by
  cases ref
  simp [partsOfRef, partsOfAll_eq_flatMap]

theorem partsOfRefs_eq_flatMap (refs : List (Reference Node)) :
    partsOfRefs refs = refs.flatMap partsOfRef := by
  induction refs with
  | nil => rfl
  | cons ref refs ih => simp [partsOfRefs, ih]

namespace Expression

/-! ## Section 2: Leaves and weights -/

/-- A leaf of an expression. The names of variables and of functions that are called are leaves, and
so are the streams. -/
inductive Leaf where
  | literal (value : Int32) (loc : Location)
  | name (text : String) (loc : Location)
  | input (loc : Location)
  | output (loc : Location)
  | endl (loc : Location)
deriving DecidableEq, Repr

/-- The leaf that a node has by itself. -/
@[simp] def Leaf.ofNode? : Node → Option Leaf
  | .literal value loc => some (.literal value loc)
  | .var ref => some (.name ref.name ref.loc)
  | .call callee _ loc => some (.name callee loc)
  | .input _ loc => some (.input loc)
  | .output _ loc => some (.output loc)
  | .endl loc => some (.endl loc)
  | _ => none

/-- The leaves of a tree from left to right. A name comes before its indices or arguments, and a
stream before its targets or items. -/
def leaves (node : Node) : List Leaf :=
  node.parts.filterMap Leaf.ofNode?

/-- What the tokens of an expression that are no leaves weigh. -/
structure Weights (M : Type) where
  /-- A unary operator, a binary operator or an assignment at its place. -/
  operator : Operator → Location → M
  /-- An item that is printed. -/
  item : M
  /-- A variable that is read into. -/
  target : M
  /-- An index of a variable. -/
  index : M

namespace Weights

variable {M : Type} [AddCommMonoid M] (w : Weights M)

/-- What a node weighs by itself. -/
@[simp] def ofNode : Node → M
  | .unary op _ loc => w.operator (.unary op) loc
  | .binary op _ _ loc => w.operator (.binary op) loc
  | .assignment _ _ loc => w.operator .assign loc
  | .output items _ => items.length • w.item
  | .input targets _ => targets.length • w.target
  | .var ref => ref.indices.length • w.index
  | _ => 0

/-- What a tree weighs. -/
def ofTree (node : Node) : M :=
  (node.parts.map w.ofNode).sum

/-- What an operator weighs that waits to be applied. -/
@[simp] def ofOperator : Operator → Location → M
  | .insert, _ => w.item
  | .extract, _ => w.target
  | .comma, _ => 0
  | op, loc => w.operator op loc

end Weights

section

variable {M : Type} [AddCommMonoid M] (w : Weights M) (node : Node) (nodes : List Node)
  (ref : Reference Node) (refs : List (Reference Node)) (loc : Location)

@[simp] theorem leaves_literal (value : Int32) :
    leaves (.literal value loc) = [.literal value loc] := by
  simp [leaves]

@[simp] theorem ofTree_literal (value : Int32) : w.ofTree (.literal value loc) = 0 := by
  simp [Weights.ofTree]

@[simp] theorem leaves_endl : leaves (.endl loc) = [.endl loc] := by
  simp [leaves]

@[simp] theorem ofTree_endl : w.ofTree (.endl loc) = 0 := by
  simp [Weights.ofTree]

@[simp] theorem leaves_empty : leaves .empty = [] := by
  simp [leaves]

@[simp] theorem ofTree_empty : w.ofTree .empty = 0 := by
  simp [Weights.ofTree]

theorem filterMap_partsOfAll :
    (nodes.flatMap Node.parts).filterMap Leaf.ofNode? = nodes.flatMap leaves := by
  rw [List.filterMap_flatMap]
  rfl

theorem sum_partsOfAll :
    ((nodes.flatMap Node.parts).map w.ofNode).sum = (nodes.map w.ofTree).sum := by
  induction nodes with
  | nil => rfl
  | cons node nodes ih => simp [ih, Weights.ofTree]

@[simp] theorem leaves_var :
    leaves (.var ref) = .name ref.name ref.loc :: ref.indices.flatMap leaves := by
  simp [leaves, partsOfRef_eq, filterMap_partsOfAll]

@[simp] theorem ofTree_var :
    w.ofTree (.var ref) = ref.indices.length • w.index + (ref.indices.map w.ofTree).sum := by
  simp [Weights.ofTree, partsOfRef_eq, sum_partsOfAll]

theorem filterMap_partsOfRefs :
    (refs.flatMap partsOfRef).filterMap Leaf.ofNode? =
      refs.flatMap fun ref => leaves (.var ref) := by
  rw [List.filterMap_flatMap]
  rfl

theorem sum_partsOfRefs :
    ((refs.flatMap partsOfRef).map w.ofNode).sum =
      (refs.map fun ref => w.ofTree (.var ref)).sum := by
  induction refs with
  | nil => rfl
  | cons ref refs ih =>
    rw [List.flatMap_cons, List.map_append, List.sum_append, ih]
    rfl

@[simp] theorem leaves_call (callee : String) :
    leaves (.call callee nodes loc) = .name callee loc :: nodes.flatMap leaves := by
  simp [leaves, partsOfAll_eq_flatMap, filterMap_partsOfAll]

@[simp] theorem ofTree_call (callee : String) :
    w.ofTree (.call callee nodes loc) = (nodes.map w.ofTree).sum := by
  simp [Weights.ofTree, partsOfAll_eq_flatMap, sum_partsOfAll]

@[simp] theorem leaves_output :
    leaves (.output nodes loc) = .output loc :: nodes.flatMap leaves := by
  simp [leaves, partsOfAll_eq_flatMap, filterMap_partsOfAll]

@[simp] theorem ofTree_output :
    w.ofTree (.output nodes loc) = nodes.length • w.item + (nodes.map w.ofTree).sum := by
  simp [Weights.ofTree, partsOfAll_eq_flatMap, sum_partsOfAll]

@[simp] theorem leaves_input :
    leaves (.input refs loc) = .input loc :: refs.flatMap fun ref => leaves (.var ref) := by
  rw [leaves, Node.parts, partsOfRefs_eq_flatMap, List.filterMap_cons, filterMap_partsOfRefs]
  rfl

@[simp] theorem ofTree_input :
    w.ofTree (.input refs loc) =
      refs.length • w.target + (refs.map fun ref => w.ofTree (.var ref)).sum := by
  rw [Weights.ofTree, Node.parts, partsOfRefs_eq_flatMap, List.map_cons, List.sum_cons,
    sum_partsOfRefs]
  rfl

@[simp] theorem leaves_unary (op : UnaryOp) : leaves (.unary op node loc) = leaves node := by
  simp [leaves, List.filterMap_cons]

@[simp] theorem ofTree_unary (op : UnaryOp) :
    w.ofTree (.unary op node loc) = w.operator (.unary op) loc + w.ofTree node := by
  simp [Weights.ofTree]

@[simp] theorem leaves_binary (op : BinaryOp) (right : Node) :
    leaves (.binary op node right loc) = leaves node ++ leaves right := by
  simp [leaves, List.filterMap_cons]

@[simp] theorem ofTree_binary (op : BinaryOp) (right : Node) :
    w.ofTree (.binary op node right loc) =
      w.operator (.binary op) loc + (w.ofTree node + w.ofTree right) := by
  simp [Weights.ofTree]

@[simp] theorem leaves_assignment :
    leaves (.assignment ref node loc) = leaves (.var ref) ++ leaves node := by
  simp only [leaves, Node.parts, List.filterMap_cons, Leaf.ofNode?, List.filterMap_append]

@[simp] theorem ofTree_assignment :
    w.ofTree (.assignment ref node loc) =
      w.operator .assign loc + (w.ofTree (.var ref) + w.ofTree node) := by
  simp only [Weights.ofTree, Node.parts, Weights.ofNode, List.map_cons, List.map_append,
    List.sum_cons, List.sum_append]

end

/-! ## Section 3: What lies on the stacks -/

/-- The leaves of an operand. -/
@[simp] def Operand.leaves : Operand → List Leaf
  | .node value => Expression.leaves value
  | .arguments args => args.flatMap Expression.leaves
  | .nothing => []

/-- The leaves of operands, from the bottom of the stack to its top. -/
def frontier (operands : List Operand) : List Leaf :=
  operands.reverse.flatMap Operand.leaves

@[simp] theorem frontier_nil : frontier [] = [] :=
  rfl

@[simp] theorem frontier_cons (operand : Operand) (operands : List Operand) :
    frontier (operand :: operands) = frontier operands ++ operand.leaves := by
  simp [frontier]

namespace Weights

variable {M : Type} [AddCommMonoid M] (w : Weights M)

/-- What an operand weighs. -/
@[simp] def ofOperand : Operand → M
  | .node value => w.ofTree value
  | .arguments args => (args.map w.ofTree).sum
  | .nothing => 0

/-- What waits weighs what its tokens do. -/
@[simp] def ofPending : Pending × Location → M
  | (.operator op, loc) => w.ofOperator op loc
  | (.opener .index, _) => w.index
  | (.opener _, _) => 0

/-- What lies on both stacks weighs. -/
def ofStacks (pending : List (Pending × Location)) (operands : List Operand) : M :=
  (pending.map w.ofPending).sum + (operands.map w.ofOperand).sum

end Weights

section

variable {M : Type} [AddCommMonoid M] (w : Weights M)

/-- An operator leaves the leaves of all operands as they are. -/
theorem Applied.frontier {op : Operator} {loc : Location} {operands operands' : List Operand}
    (h : Applied op loc operands operands') :
    Expression.frontier operands' = Expression.frontier operands := by
  cases h <;> simp

/-- What it weighs goes into the tree. -/
theorem Applied.weight {op : Operator} {loc : Location} {operands operands' : List Operand}
    (h : Applied op loc operands operands') :
    (operands'.map w.ofOperand).sum = w.ofOperator op loc + (operands.map w.ofOperand).sum := by
  cases h <;>
    simp only [List.map_cons, List.sum_cons, List.map_append, List.sum_append, List.map_nil,
      List.sum_nil, Weights.ofOperand, Weights.ofOperator, ofTree_unary, ofTree_binary,
      ofTree_assignment, ofTree_input, ofTree_output, List.length_append, List.length_cons,
      List.length_nil, add_nsmul, zero_add, one_nsmul] <;>
    abel

theorem popArguments_frontier {operands rest : List Operand} {args : List Node}
    (h : popArguments operands = (args, rest)) :
    frontier operands = frontier rest ++ args.flatMap leaves := by
  unfold popArguments at h
  split at h <;> cases h <;> simp

theorem popArguments_weight {operands rest : List Operand} {args : List Node}
    (h : popArguments operands = (args, rest)) :
    (operands.map w.ofOperand).sum = (args.map w.ofTree).sum + (rest.map w.ofOperand).sum := by
  unfold popArguments at h
  split at h <;> cases h <;> simp

/-- A bracket that is closed leaves the leaves of all operands as they are. -/
theorem Closed.frontier {s s' : Stacks} (h : Closed s s') :
    Expression.frontier s'.operands = Expression.frontier s.operands := by
  cases h with
  | call hargs => simp [popArguments_frontier hargs]
  | _ => simp

theorem Closed.weight {s s' : Stacks} (h : Closed s s') :
    w.ofStacks s'.pending s'.operands = w.ofStacks s.pending s.operands := by
  cases h with
  | call hargs =>
    simp [Weights.ofStacks, popArguments_weight w hargs]
  | index =>
    -- The opening bracket has become an index of the variable.
    simp only [Weights.ofStacks, Weights.ofPending, Weights.ofOperand, List.map_cons, List.sum_cons,
      ofTree_var, List.map_append, List.sum_append, List.length_append, List.length_cons,
      List.length_nil, List.map_nil, List.sum_nil, add_nsmul, zero_add, one_nsmul]
    abel
  | _ => simp [Weights.ofStacks]

/-- Operators that are applied one after the other keep what each of them keeps. -/
theorem unwind_keeps (yields : Operator → Bool) (pending : List (Pending × Location))
    (operands : List Operand) :
    Gives (fun p => frontier p.2 = frontier operands ∧
        w.ofStacks p.1 p.2 = w.ofStacks pending operands)
      (unwind yields pending operands) := by
  fun_induction unwind yields pending operands with
  | case1 op loc pending operands _ ih =>
    rintro p h
    obtain ⟨operands', happly, h⟩ := exists_of_bind_ok h
    have happlied := applied_of_apply happly
    obtain ⟨hfrontier, hweight⟩ := ih operands' p h
    refine ⟨hfrontier.trans happlied.frontier, hweight.trans ?_⟩
    simp only [Weights.ofStacks, List.map_cons, List.sum_cons, Weights.ofPending,
      happlied.weight w]
    abel
  | case2 => exact .ok ⟨rfl, rfl⟩
  | case3 => exact .ok ⟨rfl, rfl⟩

end

/-! ## Section 4: What tokens add -/

/-- Whether a token is an operand by itself: a word or a numeral. -/
def isOperand (t : Token) : Bool :=
  t.isWord || t.isNumeral

/-- Whether an operand ends with a token. -/
def endsOperand (t : Token) : Bool :=
  isOperand t || t.text == ")" || t.text == "]"

/-- The leaf that a token stands for. -/
def Leaf.ofToken? (t : Token) : Option Leaf :=
  if t.text = "cin" then some (.input t.loc)
  else if t.text = "cout" then some (.output t.loc)
  else if t.text = "endl" then some (.endl t.loc)
  else if t.isNumeral then (Text.int32? t.text.toList).map (.literal · t.loc)
  else if t.isWord then some (.name t.text t.loc)
  else none

/-- The leaves that the words and numerals among some tokens stand for. -/
def leafTokens (ts : List Token) : List (Option Leaf) :=
  (ts.filter isOperand).map Leaf.ofToken?

theorem leafTokens_cons (t : Token) (ts : List Token) :
    leafTokens (t :: ts) = leafTokens [t] ++ leafTokens ts := by
  simp only [leafTokens, ← List.map_append, ← List.filter_append, List.singleton_append]

/-- The unary operator, binary operator or assignment that a text stands for. A sign is a binary
operator if an operand ends right before it. -/
def operatorOf? (after : Bool) (text : String) : Option Operator :=
  if text = "=" then some .assign
  else if text = "+" then some (if after then .binary .add else .unary .plus)
  else if text = "-" then some (if after then .binary .sub else .unary .neg)
  else match UnaryOp.ofSymbol? text with
    | some op => some (.unary op)
    | none => (BinaryOp.ofSymbol? text).map .binary

/-- The operators among some tokens with their places. -/
def operatorsFrom (after : Bool) : List Token → List (Operator × Location)
  | [] => []
  | t :: ts =>
    match operatorOf? after t.text with
    | some op => (op, t.loc) :: operatorsFrom (endsOperand t) ts
    | none => operatorsFrom (endsOperand t) ts

namespace Weights

variable {M : Type} [AddCommMonoid M] (w : Weights M)

/-- What a token weighs. -/
def ofToken (after : Bool) (t : Token) : M :=
  match operatorOf? after t.text with
  | some op => w.operator op t.loc
  | none =>
    if t.text = "<<" then w.item
    else if t.text = ">>" then w.target
    else if t.text = "[" then w.index
    else 0

/-- What tokens weigh. -/
def ofTokens (after : Bool) : List Token → M
  | [] => 0
  | t :: ts => w.ofToken after t + ofTokens (endsOperand t) ts

/-- What a symbol weighs. -/
@[simp] def ofSymbol : Symbol → Location → M
  | .operator op, loc => w.ofOperator op loc
  | .opener opener, loc => w.ofPending (.opener opener, loc)
  | .closeParen, _ => 0
  | .closeIndex, _ => 0

end Weights

/-- Whether a symbol closes a bracket. -/
@[simp] def Symbol.isCloser : Symbol → Bool
  | .closeParen | .closeIndex => true
  | _ => false

/-- The operator that a symbol is, but for the comma and those of the streams. -/
@[simp] def Symbol.operator? : Symbol → Option Operator
  | .operator .insert | .operator .extract | .operator .comma => none
  | .operator op => some op
  | _ => none

theorem mem_punctuation_of_operatorOf? {after : Bool} {text : String} {op : Operator}
    (h : operatorOf? after text = some op) : text ∈ punctuation := by
  unfold operatorOf? at h
  split at h
  · next htext => simp [htext, punctuation]
  · split at h
    · next htext => simp [htext, punctuation, BinaryOp.all, BinaryOp.symbol]
    · split at h
      · next htext => simp [htext, punctuation, BinaryOp.all, BinaryOp.symbol]
      · split at h
        · next op' hunary =>
          -- The text is the symbol of an operator, which is one of the few.
          have htext : op'.symbol = text := by simpa using List.find?_some hunary
          subst htext
          cases op' <;> decide
        · obtain ⟨op', hbinary, -⟩ := Option.map_eq_some_iff.mp h
          have htext : op'.symbol = text := by simpa using List.find?_some hbinary
          subst htext
          cases op' <;> decide

theorem operatorOf?_of_not_mem {text : String} (h : text ∉ punctuation) (after : Bool) :
    operatorOf? after text = none := by
  cases hop : operatorOf? after text with
  | none => rfl
  | some op => exact absurd (mem_punctuation_of_operatorOf? hop) h

theorem mem_punctuation_of_symbol {after : Bool} {text : String} {symbol : Symbol}
    (h : Symbol.of? after text = some symbol) : text ∈ punctuation := by
  by_cases hmem : text ∈ punctuation
  · exact hmem
  · -- A text that is no punctuation is none of the texts with a meaning.
    exfalso
    have hplus : text ≠ "+" := by rintro rfl; exact hmem (by decide)
    have hminus : text ≠ "-" := by rintro rfl; exact hmem (by decide)
    have hoperator := operatorOf?_of_not_mem hmem after
    simp only [punctuation, List.mem_append, List.mem_cons, List.not_mem_nil, or_false,
      not_or] at hmem
    simp only [operatorOf?, hmem, hplus, hminus, if_false] at hoperator
    simp only [Symbol.of?, hmem, hplus, hminus, if_false, false_and] at h
    split at h <;> simp_all

/-- The meaning of a symbol tells what its token weighs, and whether an operand ends with it. -/
theorem symbol_meaning : ∀ (after : Bool), ∀ text ∈ punctuation,
    ∀ symbol ∈ Symbol.of? after text, operatorOf? after text = symbol.operator? ∧
      (text = "<<" ↔ symbol = .operator .insert) ∧ (text = ">>" ↔ symbol = .operator .extract) ∧
      (text = "[" ↔ symbol = .opener .index) ∧
      endsOperand ⟨text, .start⟩ = symbol.isCloser := by
  decide

section

variable {M : Type} [AddCommMonoid M] (w : Weights M)

/-- A token weighs what its meaning does. -/
theorem ofToken_of_symbol {after : Bool} {t : Token} {symbol : Symbol}
    (h : Symbol.of? after t.text = some symbol) :
    w.ofToken after t = w.ofSymbol symbol t.loc := by
  obtain ⟨hoperator, hinsert, hextract, hindex, -⟩ :=
    symbol_meaning after t.text (mem_punctuation_of_symbol h) symbol h
  simp only [Weights.ofToken, hoperator, hinsert, hextract, hindex]
  cases symbol with
  | opener opener => cases opener <;> simp
  | operator op => cases op <;> simp
  | closeParen => simp
  | closeIndex => simp

theorem endsOperand_of_symbol {after : Bool} {t : Token} {symbol : Symbol}
    (h : Symbol.of? after t.text = some symbol) : endsOperand t = symbol.isCloser :=
  (symbol_meaning after t.text (mem_punctuation_of_symbol h) symbol h).2.2.2.2

/-- Punctuation is no operand. -/
theorem isOperand_of_mem_punctuation {t : Token} (h : t.text ∈ punctuation) :
    isOperand t = false := by
  have hall : ∀ text ∈ punctuation, isOperand ⟨text, .start⟩ = false := by decide
  exact hall t.text h

/-- The words of the streams are operands. -/
theorem isOperand_of_mem_streamWords {t : Token} (h : t.text ∈ streamWords) :
    isOperand t = true := by
  have hall : ∀ text ∈ streamWords, isOperand ⟨text, .start⟩ = true := by decide
  exact hall t.text h

/-- A word or numeral weighs nothing. -/
theorem ofToken_of_isOperand {after : Bool} {t : Token} (h : isOperand t = true) :
    w.ofToken after t = 0 := by
  have hnot : t.text ∉ punctuation := fun hmem => by
    rw [isOperand_of_mem_punctuation hmem] at h
    cases h
  have hoperator := operatorOf?_of_not_mem hnot after
  simp only [punctuation, List.mem_append, List.mem_cons, not_or] at hnot
  simp only [Weights.ofToken, hoperator, hnot, if_false]

/-! ## Section 5: What reading keeps -/

/-- A token is taken in as an operand of its own, or by what it means as a symbol. -/
inductive TakesIn (s : Stacks) (t : Token) : Stacks → Prop where
  | operand {node : Node} {leaf : Leaf} (ht : isOperand t = true)
      (hleaf : Leaf.ofToken? t = some leaf) (hnode : leaves node = [leaf])
      (hweight : ∀ {M : Type} [AddCommMonoid M] (w : Weights M), w.ofTree node = 0) :
      TakesIn s t (s.push node)
  | symbol {symbol : Symbol} {s' : Stacks}
      (hsymbol : Symbol.of? s.afterOperand t.text = some symbol)
      (hshift : s.shift t.loc symbol = .ok s') : TakesIn s t s'

theorem takesIn_of_step {s s' : Stacks} {t : Token} (h : s.step t = .ok s') : TakesIn s t s' := by
  -- The tests are those of the step itself. The words of the streams come first, since they are
  -- words like any other.
  unfold Stacks.step at h
  split at h
  · next htext =>
    cases h
    have ht : isOperand t = true := isOperand_of_mem_streamWords (by simp [htext, streamWords])
    have hleaf : Leaf.ofToken? t = some (.input t.loc) := by simp [Leaf.ofToken?, htext]
    exact .operand ht hleaf (by simp) (by simp)
  split at h
  · next htext =>
    cases h
    have ht : isOperand t = true := isOperand_of_mem_streamWords (by simp [htext, streamWords])
    have hleaf : Leaf.ofToken? t = some (.output t.loc) := by simp [Leaf.ofToken?, htext]
    exact .operand ht hleaf (by simp) (by simp)
  split at h
  · next htext =>
    cases h
    have ht : isOperand t = true := isOperand_of_mem_streamWords (by simp [htext, streamWords])
    have hleaf : Leaf.ofToken? t = some (.endl t.loc) := by simp [Leaf.ofToken?, htext]
    exact .operand ht hleaf (by simp) (by simp)
  next hcin hcout hendl =>
  split at h
  · next hnumeral =>
    split at h
    · next value hvalue =>
      -- A numeral is taken in if its value fits, and then it is that of its leaf.
      cases h
      have hleaf : Leaf.ofToken? t = some (.literal value t.loc) := by
        simp [Leaf.ofToken?, hcin, hcout, hendl, hnumeral, hvalue]
      exact .operand (by simp [isOperand, hnumeral]) hleaf (by simp) (by simp)
    · cases h
  next hnumeral =>
  split at h
  · next hword =>
    cases h
    have hleaf : Leaf.ofToken? t = some (.name t.text t.loc) := by
      simp [Leaf.ofToken?, hcin, hcout, hendl, hnumeral, hword]
    exact .operand (by simp [isOperand, hword]) hleaf (by simp [Reference.plain])
      (by simp [Reference.plain])
  -- What is left is no operand.
  split at h
  · next symbol hsymbol => exact .symbol hsymbol h
  · cases h

/-- A token has been taken in: what it stands for is on the stacks, and the rest is as before. -/
structure Took (t : Token) (s s' : Stacks) : Prop where
  frontier : (frontier s'.operands).map some = (frontier s.operands).map some ++ leafTokens [t]
  weight : w.ofStacks s'.pending s'.operands =
    w.ofToken s.afterOperand t + w.ofStacks s.pending s.operands
  after : s'.afterOperand = endsOperand t

/-- A word or numeral has been taken in when its leaf is on the stack. -/
theorem took_push {s : Stacks} {t : Token} {node : Node} {leaf : Leaf}
    (ht : isOperand t = true) (hleaf : Leaf.ofToken? t = some leaf) (hnode : leaves node = [leaf])
    (hweight : w.ofTree node = 0) : Took w t s (s.push node) where
  frontier := by simp [Stacks.push, leafTokens, ht, hleaf, hnode]
  weight := by
    rw [ofToken_of_isOperand w ht, zero_add]
    simp [Stacks.push, Weights.ofStacks, hweight]
  after := by simp [Stacks.push, endsOperand, ht]

/-- A bracket that is closed after its content has been applied changes neither the leaves nor what
there is. -/
theorem closed_keeps {s s' : Stacks} {yields : Operator → Bool}
    {unwound : List (Pending × Location) × List Operand}
    (hunwind : unwind yields s.pending s.operands = .ok unwound)
    (hclosed : Closed ⟨unwound.1, unwound.2, s.afterOperand⟩ s') :
    frontier s'.operands = frontier s.operands ∧
      w.ofStacks s'.pending s'.operands = 0 + w.ofStacks s.pending s.operands ∧
      s'.afterOperand = true := by
  obtain ⟨hfrontier, hweight⟩ := unwind_keeps w yields _ _ _ hunwind
  refine ⟨hclosed.frontier.trans hfrontier, ?_, hclosed.after⟩
  rw [zero_add]
  exact (hclosed.weight w).trans hweight

/-- Taking in a symbol moves nothing but the symbol. -/
theorem shift_keeps (s : Stacks) (loc : Location) (symbol : Symbol) :
    Gives (fun s' => frontier s'.operands = frontier s.operands ∧
        w.ofStacks s'.pending s'.operands =
          w.ofSymbol symbol loc + w.ofStacks s.pending s.operands ∧
        s'.afterOperand = symbol.isCloser)
      (s.shift loc symbol) := by
  cases symbol with
  | opener opener =>
    refine .ok ⟨rfl, ?_, rfl⟩
    simp [Weights.ofStacks, add_assoc]
  | operator op =>
    rintro s' h
    obtain ⟨⟨pending, operands⟩, hunwind, h⟩ := exists_of_bind_ok h
    obtain ⟨hfrontier, hweight⟩ := unwind_keeps w _ _ _ _ hunwind
    cases h
    refine ⟨hfrontier, ?_, rfl⟩
    rw [← hweight]
    simp [Weights.ofStacks, add_assoc]
  | closeParen =>
    rintro s' h
    obtain ⟨unwound, hunwind, h⟩ := exists_of_bind_ok h
    exact closed_keeps w hunwind (closed_of_closeParen h)
  | closeIndex =>
    rintro s' h
    obtain ⟨unwound, hunwind, h⟩ := exists_of_bind_ok h
    exact closed_keeps w hunwind (closed_of_closeIndex h)

/-- Whatever token it is, it has been taken in. -/
theorem took_step (s : Stacks) (t : Token) : Gives (Took w t s) (s.step t) := by
  intro s' h
  cases takesIn_of_step h with
  | operand ht hleaf hnode hweight => exact took_push w ht hleaf hnode (hweight w)
  | symbol hsymbol hshift =>
    obtain ⟨hfrontier, hweight, hafter⟩ := shift_keeps w s t.loc _ s' hshift
    have ht : isOperand t = false :=
      isOperand_of_mem_punctuation (mem_punctuation_of_symbol hsymbol)
    exact
      { frontier := by simp [hfrontier, leafTokens, ht]
        weight := by rw [hweight, ofToken_of_symbol w hsymbol]
        after := by rw [hafter, endsOperand_of_symbol hsymbol] }

/-- Tokens that are taken in one after the other add their leaves in order, and their weights. -/
theorem steps_keep (s : Stacks) (ts : List Token) :
    Gives (fun s' => (frontier s'.operands).map some =
          (frontier s.operands).map some ++ leafTokens ts ∧
        w.ofStacks s'.pending s'.operands =
          w.ofTokens s.afterOperand ts + w.ofStacks s.pending s.operands)
      (s.steps ts) := by
  induction ts generalizing s with
  | nil => exact .ok ⟨by simp [leafTokens], by simp [Weights.ofTokens]⟩
  | cons t ts ih =>
    rintro s' h
    obtain ⟨s₁, hstep, hsteps⟩ := exists_of_bind_ok h
    have htook := took_step w s t s₁ hstep
    obtain ⟨hfrontier, hweight⟩ := ih s₁ s' hsteps
    constructor
    · rw [hfrontier, htook.frontier, List.append_assoc, ← leafTokens_cons]
    · rw [hweight, htook.weight, htook.after, Weights.ofTokens]
      abel

theorem finish_keeps {s : Stacks} {loc : Location} {node : Node} (h : s.finish loc = .ok node) :
    leaves node = frontier s.operands ∧ w.ofTree node = w.ofStacks s.pending s.operands := by
  obtain ⟨s', hshift, h⟩ := exists_of_bind_ok h
  obtain ⟨hfrontier, hweight, -⟩ := shift_keeps w s loc .closeParen s' hshift
  rw [← hfrontier, ← zero_add (w.ofStacks s.pending s.operands)]
  refine ⟨?_, Eq.trans ?_ hweight⟩
  all_goals
    split at h
    · cases h
    · cases h
    · next hpending hoperands =>
      cases h
      simp [hpending, hoperands, Weights.ofStacks]
    · cases h
    · cases h

/-- The leaves of a tree are those of the tokens that it has been read from, and it weighs what they
do. -/
theorem read_keeps {ts : List Token} {node : Node} (h : read ts = .ok node) :
    (leaves node).map some = leafTokens ts ∧ w.ofTree node = w.ofTokens false ts := by
  cases ts with
  | nil =>
    cases h
    simp [leafTokens, Weights.ofTokens]
  | cons t ts =>
    obtain ⟨s, hsteps, hfinish⟩ := exists_of_bind_ok h
    obtain ⟨hleaves, htree⟩ := finish_keeps w hfinish
    obtain ⟨hfrontier, hweight⟩ := steps_keep w _ _ s hsteps
    rw [hleaves, htree, hfrontier, hweight]
    simp [Stacks.start, Weights.ofStacks]

end

/-! ## Section 6: Operators, items, targets and indices -/

/-- The operator that a node is, with its place. -/
def operatorOfNode? : Node → Option (Operator × Location)
  | .unary op _ loc => some (.unary op, loc)
  | .binary op _ _ loc => some (.binary op, loc)
  | .assignment _ _ loc => some (.assign, loc)
  | _ => none

/-- The operators of a tree with their places. -/
def operators (node : Node) : List (Operator × Location) :=
  node.parts.filterMap operatorOfNode?

/-- What is printed anywhere in a tree. -/
def items (node : Node) : List Node :=
  node.parts.flatMap fun
    | .output items _ => items
    | _ => []

/-- What is read into anywhere in a tree. -/
def targets (node : Node) : List (Reference Node) :=
  node.parts.flatMap fun
    | .input targets _ => targets
    | _ => []

/-- The indices of all variables of a tree. -/
def indices (node : Node) : List Node :=
  node.parts.flatMap fun
    | .var ref => ref.indices
    | _ => []

/-- How many tokens have a text. -/
def occurrences (text : String) (ts : List Token) : Nat :=
  ts.countP (·.text = text)

theorem occurrences_cons (text : String) (t : Token) (ts : List Token) :
    occurrences text (t :: ts) = occurrences text [t] + occurrences text ts := by
  simp [occurrences, List.countP_cons, Nat.add_comm]

namespace Weights

/-- Operators are collected, and nothing else is. -/
def collecting : Weights (Multiset (Operator × Location)) where
  operator op loc := {(op, loc)}
  item := 0
  target := 0
  index := 0

/-- Items, targets and indices count as much as is told. -/
def counting (item target index : Nat) : Weights Nat where
  operator _ _ := 0
  item := item
  target := target
  index := index

theorem collecting_ofTree (node : Node) :
    collecting.ofTree node = (operators node : Multiset (Operator × Location)) := by
  unfold ofTree operators
  induction node.parts with
  | nil => rfl
  | cons part parts ih =>
    rw [List.map_cons, List.sum_cons, ih, List.filterMap_cons]
    cases part <;> simp [collecting, operatorOfNode?]

theorem collecting_ofTokens (after : Bool) (ts : List Token) :
    collecting.ofTokens after ts = (operatorsFrom after ts : Multiset (Operator × Location)) := by
  induction ts generalizing after with
  | nil => rfl
  | cons t ts ih =>
    rw [ofTokens, ih, operatorsFrom, ofToken]
    split <;> simp [collecting]

theorem counting_ofTree (item target index : Nat) (node : Node) :
    (counting item target index).ofTree node =
      (items node).length * item + (targets node).length * target +
        (indices node).length * index := by
  unfold ofTree items targets indices
  induction node.parts with
  | nil => simp
  | cons part parts ih =>
    rw [List.map_cons, List.sum_cons, ih]
    simp only [List.flatMap_cons, List.length_append, Nat.add_mul]
    cases part <;> simp only [ofNode, counting, List.length_nil, Nat.nsmul_eq_mul] <;> omega

/-- The stream operators and the opening bracket of an index are none of the operators. -/
theorem operatorOf?_eq_none : ∀ (after : Bool), ∀ text ∈ ["<<", ">>", "["],
    operatorOf? after text = none := by
  decide

theorem counting_ofToken (item target index : Nat) (after : Bool) (t : Token) :
    (counting item target index).ofToken after t =
      occurrences "<<" [t] * item + occurrences ">>" [t] * target +
        occurrences "[" [t] * index := by
  have hnone := operatorOf?_eq_none after t.text
  simp only [occurrences, List.countP_singleton, decide_eq_true_eq, ofToken, counting]
  by_cases hinsert : t.text = "<<"
  · rw [hnone (by simp [hinsert])]
    simp [hinsert]
  by_cases hextract : t.text = ">>"
  · rw [hnone (by simp [hextract])]
    simp [hextract]
  by_cases hindex : t.text = "["
  · rw [hnone (by simp [hindex])]
    simp [hindex]
  · simp only [hinsert, hextract, hindex, if_false]
    split <;> simp

theorem counting_ofTokens (item target index : Nat) (after : Bool) (ts : List Token) :
    (counting item target index).ofTokens after ts =
      occurrences "<<" ts * item + occurrences ">>" ts * target + occurrences "[" ts * index := by
  induction ts generalizing after with
  | nil => simp [ofTokens, occurrences]
  | cons t ts ih =>
    rw [ofTokens, ih, counting_ofToken, occurrences_cons "<<" t ts,
      occurrences_cons ">>" t ts, occurrences_cons "[" t ts]
    simp only [Nat.add_mul]
    omega

end Weights

/-- An expression that has been read has lost none of its tokens. Words and numerals are its leaves
in their order, operators are its operators, and there are as many items, targets and indices as
tokens for them. -/
theorem read_keeps_tokens {ts : List Token} {node : Node} (h : read ts = .ok node) :
    (leaves node).map some = leafTokens ts ∧
      (operators node).Perm (operatorsFrom false ts) ∧
      (items node).length = occurrences "<<" ts ∧
      (targets node).length = occurrences ">>" ts ∧
      (indices node).length = occurrences "[" ts := by
  have hcount (item target index : Nat) :=
    ((Weights.counting_ofTree item target index node).symm.trans (read_keeps _ h).2).trans
      (Weights.counting_ofTokens item target index false ts)
  refine ⟨(read_keeps Weights.collecting h).1, ?_, ?_, ?_, ?_⟩
  · rw [← Multiset.coe_eq_coe, ← Weights.collecting_ofTree, (read_keeps _ h).2,
      Weights.collecting_ofTokens]
  · simpa using hcount 1 0 0
  · simpa using hcount 0 1 0
  · simpa using hcount 0 0 1

/-- `f ) ( x = - y , a [ 2 ]` is accepted: the first parenthesis closes the one that stands for the
beginning, and the second opens a call that the end closes. -/
def strayParens : List Token :=
  [⟨"f", ⟨1, 1⟩⟩, ⟨")", ⟨1, 2⟩⟩, ⟨"(", ⟨1, 3⟩⟩, ⟨"x", ⟨1, 4⟩⟩, ⟨"=", ⟨1, 5⟩⟩, ⟨"-", ⟨1, 6⟩⟩,
    ⟨"y", ⟨1, 7⟩⟩, ⟨",", ⟨1, 8⟩⟩, ⟨"a", ⟨1, 9⟩⟩, ⟨"[", ⟨1, 10⟩⟩, ⟨"2", ⟨1, 11⟩⟩, ⟨"]", ⟨1, 12⟩⟩]

theorem read_keeps_tokens_strayParens :
    ∃ node, read strayParens = .ok node ∧
      (leaves node).map some = leafTokens strayParens ∧
      (operators node).Perm (operatorsFrom false strayParens) ∧
      (items node).length = occurrences "<<" strayParens ∧
      (targets node).length = occurrences ">>" strayParens ∧
      (indices node).length = occurrences "[" strayParens := by
  have h : read strayParens = .ok (.call "f"
      [.assignment ⟨"x", [], ⟨1, 4⟩⟩ (.unary .neg (.var ⟨"y", [], ⟨1, 7⟩⟩) ⟨1, 6⟩) ⟨1, 5⟩,
        .var ⟨"a", [.literal 2 ⟨1, 11⟩], ⟨1, 9⟩⟩] ⟨1, 1⟩) := by
    rfl
  exact ⟨_, h, read_keeps_tokens h⟩

end Expression

end Stepwise
