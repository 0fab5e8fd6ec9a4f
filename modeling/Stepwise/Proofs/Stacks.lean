import Stepwise.Grammar.Expression

/-!
# What the readers do to their stacks

An expression is read with two stacks, and everything that is read grows there in steps of few kinds: an
operator takes what it needs off the operands and puts one in its place, and a bracket that is closed does
the same with what it encloses. `Applied` and `Closed` have one rule for each kind. Whatever is to be said
about the operands, it is proved for these rules, and the code of a step is looked at here only.

## Main results

* `applied_of_apply`: what an operator has done if it could be applied.
* `closed_of_closeParen`, `closed_of_closeIndex`: what closing a bracket has done.
-/

namespace Stepwise

/-! ## Section 1: What a reading gives -/

namespace Expression

variable {α β : Type}

/-- If the reading succeeds, then what it gives has the property. -/
def Gives (P : α → Prop) (x : Reading α) : Prop :=
  ∀ a, x = .ok a → P a

theorem Gives.ok {P : α → Prop} {a : α} (h : P a) : Gives P (.ok a) := by
  rintro _ ⟨⟩
  exact h

/-- Of what a reading gives, nothing need be known. -/
theorem Gives.any (x : Reading α) : Gives (fun _ => True) x :=
  fun _ _ => trivial

theorem Gives.error {P : α → Prop} {fault : SyntaxFault} : Gives P (.error fault : Reading α) :=
  nofun

/-- One reading after another, whose second one is given what has the property. -/
theorem Gives.bind {P : α → Prop} {Q : β → Prop} {x : Reading α} {f : α → Reading β}
    (hx : Gives P x) (hf : ∀ a, P a → Gives Q (f a)) : Gives Q (x >>= f) := by
  cases x with
  | ok a => exact hf a (hx a rfl)
  | error fault => exact .error

/-- Of a reading in two steps, each step has succeeded. -/
theorem exists_of_bind_ok {x : Reading α} {f : α → Reading β} {b : β}
    (h : x >>= f = .ok b) : ∃ a, x = .ok a ∧ f a = .ok b := by
  cases x with
  | ok a => exact ⟨a, rfl, h⟩
  | error fault => cases h

/-- A reading in two steps succeeds if each step does. -/
theorem ok_of_bind {x : Reading α} {f : α → Reading β} {a : α} {b : β} (hx : x = .ok a)
    (hf : f a = .ok b) : x >>= f = .ok b := by
  rw [hx]
  exact hf

theorem exists_of_map_ok {x : Reading α} {f : α → β} {b : β} (h : x.map f = .ok b) :
    ∃ a, x = .ok a ∧ f a = b := by
  cases x with
  | ok a => exact ⟨a, rfl, Except.ok.inj h⟩
  | error fault => cases h

/-! ## Section 2: Operators applied and brackets closed, case by case -/

theorem eq_of_popNode {loc : Location} {operands rest : List Operand} {node : Node}
    (h : popNode loc operands = .ok (node, rest)) : operands = .node node :: rest := by
  unfold popNode at h
  split at h
  · cases h
    rfl
  · cases h

theorem eq_of_popVariable {loc : Location} {operands rest : List Operand} {ref : Reference Node}
    (h : popVariable loc operands = .ok (ref, rest)) : operands = .node (.var ref) :: rest := by
  obtain ⟨⟨node, rest'⟩, hnode, hnext⟩ := exists_of_bind_ok h
  obtain rfl := eq_of_popNode hnode
  dsimp only at hnext
  split at hnext
  · cases hnext
    rfl
  · cases hnext

/-- An operator at a place takes operands off the stack and puts one in their place. -/
inductive Applied : Operator → Location → List Operand → List Operand → Prop where
  | unary {op : UnaryOp} {loc : Location} {operand : Node} {rest : List Operand} :
      Applied (.unary op) loc (.node operand :: rest) (.node (.unary op operand loc) :: rest)
  | binary {op : BinaryOp} {loc : Location} {left right : Node} {rest : List Operand} :
      Applied (.binary op) loc (.node right :: .node left :: rest)
        (.node (.binary op left right loc) :: rest)
  | assign {loc : Location} {target : Reference Node} {value : Node} {rest : List Operand} :
      Applied .assign loc (.node value :: .node (.var target) :: rest)
        (.node (.assignment target value loc) :: rest)
  | extract {loc at' : Location} {target : Reference Node} {targets : List (Reference Node)}
      {rest : List Operand} :
      Applied .extract loc (.node (.var target) :: .node (.input targets at') :: rest)
        (.node (.input (targets ++ [target]) at') :: rest)
  | insert {loc at' : Location} {item : Node} {items : List Node} {rest : List Operand} :
      Applied .insert loc (.node item :: .node (.output items at') :: rest)
        (.node (.output (items ++ [item]) at') :: rest)
  | commaFirst {loc : Location} {left right : Node} {rest : List Operand} :
      Applied .comma loc (.node right :: .node left :: rest) (.arguments [left, right] :: rest)
  | commaMore {loc : Location} {right : Node} {args : List Node} {rest : List Operand} :
      Applied .comma loc (.node right :: .arguments args :: rest)
        (.arguments (args ++ [right]) :: rest)

/-- An operator that could be applied has done so by one of the rules. -/
theorem applied_of_apply {op : Operator} {loc : Location} {operands operands' : List Operand}
    (h : op.apply loc operands = .ok operands') : Applied op loc operands operands' := by
  cases op with
  | unary op =>
    obtain ⟨⟨operand, rest⟩, hoperand, hnext⟩ := exists_of_bind_ok h
    obtain rfl := eq_of_popNode hoperand
    cases hnext
    exact .unary
  | binary op =>
    obtain ⟨⟨right, rest⟩, hright, hnext⟩ := exists_of_bind_ok h
    obtain ⟨⟨left, rest⟩, hleft, hnext⟩ := exists_of_bind_ok hnext
    obtain rfl := eq_of_popNode hright
    obtain rfl := eq_of_popNode hleft
    cases hnext
    exact .binary
  | assign =>
    obtain ⟨⟨value, rest⟩, hvalue, hnext⟩ := exists_of_bind_ok h
    obtain ⟨⟨target, rest⟩, htarget, hnext⟩ := exists_of_bind_ok hnext
    obtain rfl := eq_of_popNode hvalue
    obtain rfl := eq_of_popVariable htarget
    cases hnext
    exact .assign
  | extract =>
    obtain ⟨⟨target, rest⟩, htarget, hnext⟩ := exists_of_bind_ok h
    obtain rfl := eq_of_popVariable htarget
    -- Below the variable there has to be an input stream that takes it in.
    dsimp only at hnext
    split at hnext
    · cases hnext
      exact .extract
    · cases hnext
  | insert =>
    obtain ⟨⟨item, rest⟩, hitem, hnext⟩ := exists_of_bind_ok h
    obtain rfl := eq_of_popNode hitem
    dsimp only at hnext
    split at hnext
    · cases hnext
      exact .insert
    · cases hnext
  | comma =>
    obtain ⟨⟨right, rest⟩, hright, hnext⟩ := exists_of_bind_ok h
    obtain rfl := eq_of_popNode hright
    -- The first comma makes arguments of two expressions, and every other one adds to them.
    dsimp only at hnext
    split at hnext
    · cases hnext
      exact .commaMore
    · cases hnext
      exact .commaFirst
    · cases hnext

/-- A bracket that is closed takes its opening one off the one stack, and what it encloses off the
other. -/
inductive Closed : Stacks → Stacks → Prop where
  | group {opened : Location} {pending : List (Pending × Location)} {operands : List Operand}
      {after : Bool} :
      Closed ⟨(.opener .group, opened) :: pending, operands, after⟩ ⟨pending, operands, true⟩
  | groupOfNothing {opened : Location} {pending : List (Pending × Location)}
      {operands : List Operand} {after : Bool} :
      Closed ⟨(.opener .group, opened) :: pending, operands, after⟩
        ⟨pending, .nothing :: operands, true⟩
  | call {opened at' : Location} {pending : List (Pending × Location)}
      {operands rest : List Operand} {after : Bool} {callee : String} {args : List Node}
      (hargs : popArguments operands = (args, .node (.var ⟨callee, [], at'⟩) :: rest)) :
      Closed ⟨(.opener .call, opened) :: pending, operands, after⟩
        ⟨pending, .node (.call callee args at') :: rest, true⟩
  | callOfNothing {opened at' : Location} {pending : List (Pending × Location)}
      {rest : List Operand} {after : Bool} {callee : String} :
      Closed ⟨(.opener .call, opened) :: pending, .node (.var ⟨callee, [], at'⟩) :: rest, after⟩
        ⟨pending, .node (.call callee [] at') :: rest, true⟩
  | index {opened at' : Location} {pending : List (Pending × Location)} {rest : List Operand}
      {after : Bool} {name : String} {indices : List Node} {index : Node} :
      Closed ⟨(.opener .index, opened) :: pending,
          .node index :: .node (.var ⟨name, indices, at'⟩) :: rest, after⟩
        ⟨pending, .node (.var ⟨name, indices ++ [index], at'⟩) :: rest, true⟩

theorem Closed.after {s s' : Stacks} (h : Closed s s') : s'.afterOperand = true := by
  cases h <;> rfl

/-- A parenthesis that could be closed was that of a group or of a call. -/
theorem closed_of_closeParen {loc : Location} {s s' : Stacks} (h : closeParen loc s = .ok s') :
    Closed s s' := by
  obtain ⟨pending, operands, after⟩ := s
  unfold closeParen at h
  dsimp only at h
  split at h
  · cases h
    cases after with
    | true => exact .group
    | false => exact .groupOfNothing
  · split at h
    · next hrest =>
      cases h
      cases after with
      | true => exact .call (Prod.ext rfl hrest)
      | false =>
        -- The parentheses hold nothing, and what lies below is the function.
        simp only [popArguments, Bool.false_eq_true, if_false] at hrest ⊢
        obtain rfl := hrest
        exact .callOfNothing
    · cases h
  · cases h

/-- An index bracket that could be closed stood behind a variable. -/
theorem closed_of_closeIndex {loc : Location} {s s' : Stacks} (h : closeIndex loc s = .ok s') :
    Closed s s' := by
  obtain ⟨pending, operands, after⟩ := s
  unfold closeIndex at h
  split at h
  · next hpending =>
    obtain ⟨⟨index, rest⟩, hindex, hnext⟩ := exists_of_bind_ok h
    dsimp only at hpending hindex hnext
    obtain rfl := eq_of_popNode hindex
    subst hpending
    split at hnext
    · cases hnext
      exact .index
    · cases hnext
  · cases h

end Expression

end Stepwise
