import Stepwise.Proofs.Inventory

/-!
# Operands side by side

When an operand is put on the stack, nothing asks whether another one has ended right before it. Two
operands side by side show in the end only, when more than one is left. But operators take what lies
on the stack, wherever it comes from. So an operand too many at one place makes up for one that is
missing at another, and `* b c` is read as `b * c`.

That is the only way. What lies on the stack of operands beyond what waits for operands is kept by
applying operators and by closing brackets. It goes up where operands stand side by side, and down
where one is missing; and in the end it is what it is for one operand. An expression that can be read
has therefore as many places of the one kind as of the other, and if no operand is missing in it,
then no operands stand side by side.

## Main results

* `unwind_surplus`, `shift_surplus`: what applying operators and taking in a symbol do.
* `step_surplus`, `steps_surplus`: what tokens do.
* `side_by_side_as_often_as_missing`: the two kinds of places in an expression that has been read.
-/

namespace Stepwise.Expression

/-! ## Section 1: Places in a list of tokens -/

/-- Whether an operand begins with a token, whatever comes before it: a word, a numeral or an
operator that is unary wherever it stands. -/
def startsOperand (t : Token) : Bool :=
  isOperand t || (UnaryOp.ofSymbol? t.text).isSome

/-- The texts that an operand has to end right before: those of operators between two operands, but
for the signs, which may also stand before one, and those of the brackets of an index. -/
def needsOperandTexts : List String :=
  ["*", "/", "%", "<", "<=", ">", ">=", "==", "!=", "^", "&&", "||", "=", "<<", ">>", ",", "[", "]"]

/-- Whether a token begins a second operand beside the one that ends right before it, if `after`. -/
def isBeside (after : Bool) (t : Token) : Bool :=
  after && startsOperand t

/-- Whether an operand is missing before a token. -/
def isMissing (after : Bool) (t : Token) : Bool :=
  !after && decide (t.text ∈ needsOperandTexts)

/-- How often an operand follows another one without an operator in between; `after` tells whether
one ends right before the tokens. -/
def sideBySide (after : Bool) : List Token → Nat
  | [] => 0
  | t :: ts => (isBeside after t).toNat + sideBySide (endsOperand t) ts

/-- How often an operand is missing before a token. -/
def missing (after : Bool) : List Token → Nat
  | [] => 0
  | t :: ts => (isMissing after t).toNat + missing (endsOperand t) ts

/-- Whether no operand follows another one without an operator in between. -/
def Separated (ts : List Token) : Prop :=
  ts.IsChain fun t u => ¬ (endsOperand t ∧ startsOperand u)

instance (ts : List Token) : Decidable (Separated ts) :=
  inferInstanceAs (Decidable (List.IsChain _ _))

theorem sideBySide_eq_zero {t : Token} {ts : List Token} :
    sideBySide (endsOperand t) ts = 0 ↔ Separated (t :: ts) := by
  induction ts generalizing t with
  | nil => simp [sideBySide, Separated]
  | cons u ts ih =>
    rw [sideBySide, Nat.add_eq_zero_iff, ih, Separated, Separated, List.isChain_cons_cons]
    simp [isBeside]

/-- There are no such places if and only if there is no pair of neighbours that is one. -/
theorem sideBySide_false_eq_zero {ts : List Token} : sideBySide false ts = 0 ↔ Separated ts := by
  cases ts with
  | nil => simp [sideBySide, Separated]
  | cons t ts =>
    rw [← sideBySide_eq_zero]
    simp [sideBySide, isBeside]

/-! ## Section 2: Operands that are waited for -/

/-- How many operands an operator takes off the stack beyond the one that it puts there. -/
@[simp] def Operator.demand : Operator → Nat
  | .unary _ => 0
  | _ => 1

/-- How many operands a bracket takes off the stack when it is closed: a name lies below the
arguments of a call and below an index. -/
@[simp] def Opener.demand : Opener → Nat
  | .group => 0
  | .call => 1
  | .index => 1

@[simp] def Pending.demand : Pending × Location → Nat
  | (.operator op, _) => op.demand
  | (.opener o, _) => o.demand

/-- How many operands all that waits takes off the stack. -/
def demand (pending : List (Pending × Location)) : Nat :=
  (pending.map Pending.demand).sum

@[simp] theorem demand_nil : demand [] = 0 :=
  rfl

@[simp] theorem demand_cons (p : Pending × Location) (pending : List (Pending × Location)) :
    demand (p :: pending) = Pending.demand p + demand pending :=
  List.sum_cons

/-- The operands on the stack beyond those that are waited for, the one not counted that has just
ended. -/
def Stacks.surplus (s : Stacks) : Int :=
  s.operands.length - demand s.pending - s.afterOperand.toNat

theorem Applied.length {op : Operator} {loc : Location} {operands operands' : List Operand}
    (h : Applied op loc operands operands') :
    operands.length = operands'.length + op.demand := by
  cases h <;> simp

/-- Operators that are applied take as many operands off the stack as they have waited for. -/
theorem unwind_surplus (yields : Operator → Bool) (pending : List (Pending × Location))
    (operands : List Operand) :
    Gives (fun p => p.2.length + demand pending = operands.length + demand p.1)
      (unwind yields pending operands) := by
  fun_induction unwind yields pending operands with
  | case1 op loc pending operands _ ih =>
    rintro p h
    obtain ⟨operands', happly, h⟩ := exists_of_bind_ok h
    -- The operator leaves the stack together with the operands that it has waited for.
    have hlength := (applied_of_apply happly).length
    have hrest := ih operands' p h
    simp only [demand_cons, Pending.demand]
    omega
  | case2 => exact .ok rfl
  | case3 => exact .ok rfl

theorem popArguments_length {operands rest : List Operand} {callee : Operand}
    (h : (popArguments operands).2 = callee :: rest) : operands.length = rest.length + 2 := by
  cases operands with
  | nil => cases h
  | cons operand operands =>
    have hrest : operands = callee :: rest := by cases operand <;> exact h
    rw [hrest]
    rfl

/-- A parenthesis that is closed where no operand has ended adds one: the place between the
parentheses. -/
theorem closeParen_surplus {loc : Location} {s s' : Stacks} (h : closeParen loc s = .ok s') :
    s'.operands.length + demand s.pending =
      s.operands.length + demand s'.pending + (!s.afterOperand).toNat := by
  obtain ⟨pending, operands, after⟩ := s
  unfold closeParen at h
  -- The place between the parentheses is put on the stack before anything is closed.
  have hlength : (if after then operands else .nothing :: operands).length =
      operands.length + (!after).toNat := by
    cases after <;> rfl
  dsimp only at h ⊢
  split at h
  · -- A group leaves the operands as they are.
    cases h
    simp only [demand_cons, Pending.demand, Opener.demand, hlength]
    omega
  · split at h
    · next hrest =>
      cases h
      -- The name and the arguments of a call have become one operand.
      have hargs := popArguments_length hrest
      simp only [demand_cons, Pending.demand, Opener.demand, List.length_cons] at hargs ⊢
      omega
    · cases h
  · cases h

theorem closeIndex_surplus {loc : Location} {s s' : Stacks} (h : closeIndex loc s = .ok s') :
    s'.operands.length + demand s.pending = s.operands.length + demand s'.pending := by
  obtain ⟨pending, operands, after⟩ := s
  unfold closeIndex at h
  split at h
  · next hpending =>
    obtain ⟨⟨index, rest⟩, hindex, hnext⟩ := exists_of_bind_ok h
    dsimp only at hpending hindex hnext
    obtain rfl := eq_of_popNode hindex
    subst hpending
    split at hnext
    · cases hnext
      simp only [demand_cons, Pending.demand, Opener.demand, List.length_cons]
      omega
    · cases hnext
  · cases h

/-- How many operands a symbol waits for. -/
@[simp] def Symbol.demand : Symbol → Nat
  | .opener o => o.demand
  | .operator op => op.demand
  | .closeParen => 0
  | .closeIndex => 0

/-- How many operands a symbol puts on the stack: a parenthesis that is closed after no operand
stands for one itself. -/
@[simp] def Symbol.supply (after : Bool) : Symbol → Nat
  | .closeParen => (!after).toNat
  | _ => 0

/-- A symbol changes the surplus by what it supplies and by what it waits for. -/
theorem shift_surplus (s : Stacks) (loc : Location) (symbol : Symbol) :
    Gives (fun s' => s'.operands.length + demand s.pending + symbol.demand =
        s.operands.length + demand s'.pending + symbol.supply s.afterOperand)
      (s.shift loc symbol) := by
  cases symbol with
  | opener o => exact .ok (by simp; omega)
  | operator op =>
    rintro s' h
    obtain ⟨⟨pending, operands⟩, hunwind, h⟩ := exists_of_bind_ok h
    have hkept := unwind_surplus _ _ _ _ hunwind
    cases h
    simp only [demand_cons, Pending.demand, Symbol.demand, Symbol.supply] at hkept ⊢
    omega
  | closeParen =>
    rintro s' h
    obtain ⟨⟨pending, operands⟩, hunwind, h⟩ := exists_of_bind_ok h
    have hkept := unwind_surplus _ _ _ _ hunwind
    have hclosed := closeParen_surplus h
    simp only [Symbol.demand, Symbol.supply] at hkept hclosed ⊢
    omega
  | closeIndex =>
    rintro s' h
    obtain ⟨⟨pending, operands⟩, hunwind, h⟩ := exists_of_bind_ok h
    have hkept := unwind_surplus _ _ _ _ hunwind
    have hclosed := closeIndex_surplus h
    simp only [Symbol.demand, Symbol.supply] at hkept hclosed ⊢
    omega

/-! ## Section 3: What tokens do -/

/-- What a symbol supplies and waits for shows in its text and in whether an operand ends right
before it. -/
theorem symbol_surplus : ∀ (after : Bool), ∀ text ∈ punctuation,
    ∀ symbol ∈ Symbol.of? after text,
      symbol.supply after + after.toNat + (isMissing after ⟨text, .start⟩).toNat =
        symbol.demand + symbol.isCloser.toNat + (isBeside after ⟨text, .start⟩).toNat := by
  decide

theorem afterOperand_of_step {s s' : Stacks} {t : Token} (h : s.step t = .ok s') :
    s'.afterOperand = endsOperand t :=
  (took_step (.counting 0 0 0) s t s' h).after

/-- No operand is missing before a word or a numeral, which is one itself. -/
theorem isMissing_of_isOperand {t : Token} (ht : isOperand t = true) (after : Bool) :
    isMissing after t = false := by
  have hsub : ∀ text ∈ needsOperandTexts, text ∈ punctuation := by decide
  have hnot : t.text ∉ needsOperandTexts := fun hmem => by
    rw [isOperand_of_mem_punctuation (hsub _ hmem)] at ht
    cases ht
  simp [isMissing, hnot]

/-- The surplus goes up by one with a token that begins a second operand, and down by one with a
token that an operand is missing before. -/
theorem step_surplus {s s' : Stacks} {t : Token} (h : s.step t = .ok s') :
    s'.surplus + (isMissing s.afterOperand t).toNat =
      s.surplus + (isBeside s.afterOperand t).toNat := by
  have hafter := afterOperand_of_step h
  cases takesIn_of_step h with
  | operand ht =>
    have hbeside : isBeside s.afterOperand t = s.afterOperand := by
      simp [isBeside, startsOperand, ht]
    rw [isMissing_of_isOperand ht, hbeside]
    simp only [Stacks.surplus, Stacks.push, List.length_cons, Bool.toNat_true, Bool.toNat_false]
    omega
  | symbol hsymbol hshift =>
    have hkept := shift_surplus s t.loc _ s' hshift
    have htable := symbol_surplus _ t.text (mem_punctuation_of_symbol hsymbol) _ hsymbol
    rw [endsOperand_of_symbol hsymbol] at hafter
    simp only [Stacks.surplus, hafter]
    -- Both places depend on the text of the token only.
    have hbeside : isBeside s.afterOperand t = isBeside s.afterOperand ⟨t.text, .start⟩ := rfl
    have hmissing : isMissing s.afterOperand t = isMissing s.afterOperand ⟨t.text, .start⟩ := rfl
    rw [hbeside, hmissing]
    omega

theorem steps_surplus {s s' : Stacks} {ts : List Token} (h : s.steps ts = .ok s') :
    s'.surplus + missing s.afterOperand ts = s.surplus + sideBySide s.afterOperand ts := by
  induction ts generalizing s with
  | nil =>
    cases h
    rfl
  | cons t ts ih =>
    obtain ⟨s₁, hstep, hsteps⟩ := exists_of_bind_ok h
    -- Whether an operand ends before the rest is what the first token says and what the stacks note.
    have hone := step_surplus hstep
    have hrest := ih hsteps
    rw [afterOperand_of_step hstep] at hrest
    simp only [missing, sideBySide]
    omega

/-- At the end one operand is left, and the end has closed the parenthesis that stands for the
beginning. -/
theorem surplus_of_finish {s : Stacks} {loc : Location} {node : Node}
    (h : s.finish loc = .ok node) : s.surplus = 0 := by
  obtain ⟨s', hshift, h⟩ := exists_of_bind_ok h
  have hkept := shift_surplus s loc .closeParen s' hshift
  have hleft : s'.operands.length = 1 ∧ demand s'.pending = 0 := by
    split at h
    · cases h
    · cases h
    · next hpending hoperands => simp [hpending, hoperands]
    · cases h
    · cases h
  -- The one operand is the last one of the expression, or the end has put it there itself.
  have hafter : (!s.afterOperand).toNat + s.afterOperand.toNat = 1 := by
    cases s.afterOperand <;> rfl
  simp only [Stacks.surplus, Symbol.demand, Symbol.supply] at hkept ⊢
  omega

/-- In an expression that has been read, operands stand side by side as often as one is missing. So
they do not, unless one is missing. -/
theorem side_by_side_as_often_as_missing {ts : List Token} {node : Node} (h : read ts = .ok node) :
    sideBySide false ts = missing false ts ∧ (Separated ts ↔ missing false ts = 0) := by
  have hcount : sideBySide false ts = missing false ts := by
    cases ts with
    | nil => rfl
    | cons t ts =>
      obtain ⟨s, hsteps, hfinish⟩ := exists_of_bind_ok h
      have hkept := steps_surplus hsteps
      rw [surplus_of_finish hfinish] at hkept
      have hstart : (Stacks.start t.loc).surplus = 0 := by
        simp [Stacks.surplus, Stacks.start]
      have hafter : (Stacks.start t.loc).afterOperand = false := rfl
      rw [hstart, hafter] at hkept
      omega
  exact ⟨hcount, by rw [← hcount, sideBySide_false_eq_zero]⟩

/-- `* b c` is a product: the operand missing before the operator stands beside the other one. -/
def operatorFirst : List Token :=
  [⟨"*", ⟨1, 1⟩⟩, ⟨"b", ⟨1, 3⟩⟩, ⟨"c", ⟨1, 5⟩⟩]

theorem read_operatorFirst :
    read operatorFirst =
      .ok (.binary .mul (.var ⟨"b", [], ⟨1, 3⟩⟩) (.var ⟨"c", [], ⟨1, 5⟩⟩) ⟨1, 1⟩) := by
  rfl

theorem side_by_side_as_often_as_missing_operatorFirst :
    ∃ node, read operatorFirst = .ok node ∧ sideBySide false operatorFirst = 1 ∧
      missing false operatorFirst = 1 := by
  have hmissing : missing false operatorFirst = 1 := by decide
  exact ⟨_, read_operatorFirst,
    (side_by_side_as_often_as_missing read_operatorFirst).1.trans hmissing, hmissing⟩

/-- So operands may stand side by side in an expression that can be read. -/
theorem read_not_separated :
    ¬ ∀ (ts : List Token) (node : Node), read ts = .ok node → Separated ts :=
  fun hseparated => absurd (hseparated _ _ read_operatorFirst) (by decide)

end Stepwise.Expression
