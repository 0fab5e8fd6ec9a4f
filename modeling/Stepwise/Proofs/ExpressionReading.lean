import Stepwise.Grammar.Expression
import Stepwise.Proofs.ExpressionWriting

/-!
# Reading expressions back

The reader of expressions keeps two stacks and decides from the token before whether a sign is
unary and whether a parenthesis opens a call. Here it is shown to undo the grammar of
`Expression.Written`: however a tree has been written, the reader gives that tree.

The invariant is `Reads p x ts`: from any stacks that wait for an operand of level `p`, the tokens
`ts` lead to stacks that are as good as the old ones with `x` on top. They need not be those
stacks, since the last operators of `ts` wait for what follows; but unwinding them gives the same.
Each way of writing an expression keeps this invariant, whatever lies below on the stacks.

## Main results

- `read_written`: what has been written is read back, up to places.
-/

namespace Stepwise.Expression

/-! ## Section 1: Numerals -/

theorem digitsValue_eq_ofDigitChars (cs : List Char) (acc : Nat) :
    Text.digitsValue acc cs = Nat.ofDigitChars 10 cs acc := by
  induction cs generalizing acc with
  | nil => rfl
  | cons c cs ih =>
    unfold Text.digitsValue
    rw [ih, Nat.ofDigitChars_cons]

/-- A numeral starts with a digit and has only digits. -/
theorem IsNumeralOf.digits {value : Int32} {text : String} (h : IsNumeralOf value text) :
    ∃ c cs, text.toList = c :: cs ∧ ∀ d ∈ c :: cs, Text.isDigit d = true := by
  obtain ⟨-, zeros, htext⟩ := h
  have hne : text.toList ≠ [] := by
    rw [htext]
    exact List.append_ne_nil_of_right_ne_nil _ Nat.toDigits_ne_nil
  have hdigits : ∀ d ∈ text.toList, Text.isDigit d = true := by
    intro d hd
    rw [htext] at hd
    rcases List.mem_append.mp hd with hd | hd
    · rw [List.eq_of_mem_replicate hd]
      decide
    · exact Nat.isDigit_of_mem_toDigits (by decide) (by decide) hd
  obtain ⟨c, cs, hcs⟩ := List.exists_cons_of_ne_nil hne
  exact ⟨c, cs, hcs, hcs ▸ hdigits⟩

theorem IsNumeralOf.digitsValue {value : Int32} {text : String} (h : IsNumeralOf value text) :
    Text.digitsValue 0 text.toList = value.toInt.toNat := by
  obtain ⟨-, zeros, htext⟩ := h
  rw [htext, digitsValue_eq_ofDigitChars, Nat.ofDigitChars_append, Nat.ofDigitChars_replicate_zero,
    Nat.mul_zero, Nat.ofDigitChars_ten_toDigits]

/-- A numeral is read as its value. -/
theorem IsNumeralOf.int32? {value : Int32} {text : String} (h : IsNumeralOf value text) :
    Text.int32? text.toList = some value := by
  obtain ⟨c, cs, hcs, hdigits⟩ := h.digits
  have hdigits? : Text.digits? (c :: cs) = some value.toInt.toNat := by
    rw [Text.digits?, if_pos, ← hcs, h.digitsValue]
    simpa using hdigits
  have hnarrow : Text.narrow? (value.toInt.toNat : Int) = some value := by
    have h0 : 0 ≤ value.toInt := by simpa [Int32.le_iff_toInt_le] using h.1
    have hlt := value.toInt_lt
    rw [Int.toNat_of_nonneg h0, Text.narrow?, if_pos (by omega), Int32.ofInt_toInt]
  have hc := hdigits c List.mem_cons_self
  -- A digit is no sign, so the third way of reading applies
  rw [hcs, Text.int32?]
  · rw [hdigits?, Option.bind_some, hnarrow]
  · rintro ds ⟨⟩
    exact absurd hc (by decide)
  · rintro ds ⟨⟩
    exact absurd hc (by decide)

/-! ## Section 2: One token -/

theorem IsNumeralOf.isNumeral {value : Int32} {t : Token} (h : IsNumeralOf value t.text) :
    t.isNumeral = true := by
  obtain ⟨c, cs, hcs, hdigits⟩ := h.digits
  rw [Token.isNumeral, hcs]
  exact hdigits c List.mem_cons_self

/-- The stream words are no numerals. -/
theorem isNumeral_of_mem_streamWords {t : Token} (h : t.text ∈ streamWords) :
    t.isNumeral = false := by
  have hall : ∀ text ∈ streamWords, (Token.mk text .start).isNumeral = false := by decide
  exact hall t.text h

theorem step_literal {s : Stacks} {value : Int32} {t : Token} (ht : IsNumeralOf value t.text) :
    s.step t = .ok (s.push (.literal value t.loc)) := by
  have hnum := ht.isNumeral
  have hnot : t.text ∉ streamWords := fun hmem => by
    rw [isNumeral_of_mem_streamWords hmem] at hnum
    cases hnum
  simp only [streamWords, List.mem_cons, List.not_mem_nil, or_false, not_or] at hnot
  simp only [Stacks.step, hnot, if_false, hnum, if_true, ht.int32?]

theorem step_variable {s : Stacks} {t : Token} (ht : IsVariableName t.text) :
    s.step t = .ok (s.push (.var ⟨t.text, [], t.loc⟩)) := by
  obtain ⟨hname, hnot⟩ := ht
  have hname : t.isName = true := hname
  simp only [Token.isName, Bool.and_eq_true, Bool.not_eq_true'] at hname
  simp only [streamWords, List.mem_cons, List.not_mem_nil, or_false, not_or] at hnot
  simp only [Stacks.step, hnot, if_false, hname, if_true, Bool.false_eq_true, Reference.plain]

theorem step_input {s : Stacks} {t : Token} (ht : t.text = "cin") :
    s.step t = .ok (s.push (.input [] t.loc)) := by
  simp only [Stacks.step, ht, if_true]

theorem step_output {s : Stacks} {t : Token} (ht : t.text = "cout") :
    s.step t = .ok (s.push (.output [] t.loc)) := by
  simp [Stacks.step, ht]

theorem step_endl {s : Stacks} {t : Token} (ht : t.text = "endl") :
    s.step t = .ok (s.push (.endl t.loc)) := by
  simp [Stacks.step, ht]

/-- The texts of expressions that are no words. -/
def punctuation : List String :=
  ["(", ")", "[", "]", ",", "=", ">>", "<<", "++", "--", "!"] ++ BinaryOp.all.map BinaryOp.symbol

/-- A token that is no word is taken in by its meaning. -/
theorem step_symbol {s : Stacks} {t : Token} (symbol : Symbol) (ht : t.text ∈ punctuation)
    (hsymbol : Symbol.of? s.afterOperand t.text = some symbol) :
    s.step t = s.shift t.loc symbol := by
  have hall : ∀ text ∈ punctuation, text ∉ streamWords ∧
      (Token.mk text .start).isNumeral = false ∧ (Token.mk text .start).isWord = false := by
    decide
  obtain ⟨hnot, hnum, hword⟩ := hall t.text ht
  have hnum : t.isNumeral = false := hnum
  have hword : t.isWord = false := hword
  simp only [streamWords, List.mem_cons, List.not_mem_nil, or_false, not_or] at hnot
  simp only [Stacks.step, hnot, if_false, hnum, hword, Bool.false_eq_true, hsymbol]

theorem steps_append (s : Stacks) (ts us : List Token) :
    s.steps (ts ++ us) = (s.steps ts).bind (·.steps us) := by
  induction ts generalizing s with
  | nil => rfl
  | cons t ts ih =>
    rw [List.cons_append, Stacks.steps, Stacks.steps]
    cases h : s.step t with
    | error fault => rfl
    | ok s' => exact ih s'

/-! ## Section 3: What reading a piece does to the stacks -/

/-- The level that the right operand of a waiting operator is written at. -/
def Operator.rightLevel : Operator → Nat
  | .unary _ => 12
  | .binary op => op.priority + 1
  | .assign => 4
  | .extract => 4
  | .insert => 4
  | .comma => 3

/-- Whether something of level `p` may come next: the operator on top waits for a right operand
that binds no tighter. -/
def Admits (p : Nat) : List (Pending × Location) → Prop
  | (.operator op, _) :: _ => op.rightLevel ≤ p
  | _ => True

theorem priority_bounds (op : BinaryOp) : 5 ≤ op.priority ∧ op.priority ≤ 11 := by
  cases op <;> decide

theorem Operator.priority_le (op : Operator) : op.priority ≤ 12 := by
  cases op with
  | binary op => exact Nat.le_succ_of_le (priority_bounds op).2
  | _ => simp [Operator.priority]

theorem Operator.rightLevel_le (op : Operator) : op.rightLevel ≤ 12 := by
  cases op with
  | binary op => exact Nat.succ_le_succ (priority_bounds op).2
  | _ => simp [Operator.rightLevel]

theorem Operator.priority_le_rightLevel (op : Operator) : op.priority ≤ op.rightLevel := by
  cases op with
  | binary op => exact Nat.le_succ _
  | _ => simp [Operator.priority, Operator.rightLevel]

theorem Admits.mono {p q : Nat} (hpq : p ≤ q) {pending : List (Pending × Location)}
    (h : Admits p pending) : Admits q pending := by
  match pending with
  | [] => trivial
  | (.opener _, _) :: _ => trivial
  | (.operator _, _) :: _ => exact Nat.le_trans h hpq

/-- Reading `ts` where an operand is due puts `x` on the stack of operands, up to operators of level
`p` or more that still wait: whatever applies all of these finds `x` and the old stacks. -/
def Reads (p : Nat) (x : Operand) (ts : List Token) : Prop :=
  ∀ pending operands, Admits p pending → ∃ pending' operands',
    Stacks.steps ⟨pending, operands, false⟩ ts = .ok ⟨pending', operands', true⟩ ∧
    ∀ yields : Operator → Bool, (∀ op, p ≤ op.priority → yields op = true) →
      unwind yields pending' operands' = unwind yields pending (x :: operands)

theorem Reads.mono {p q : Nat} {x : Operand} {ts : List Token} (h : Reads q x ts) (hpq : p ≤ q) :
    Reads p x ts := by
  intro pending operands hadm
  obtain ⟨pending', operands', hsteps, hunwind⟩ := h pending operands (hadm.mono hpq)
  exact ⟨pending', operands', hsteps,
    fun yields hyields => hunwind yields fun op hop => hyields op (Nat.le_trans hpq hop)⟩

/-- A single token that is an expression of its own. -/
theorem reads_token {p : Nat} {e : Node} {t : Token}
    (h : ∀ s : Stacks, s.step t = .ok (s.push e)) : Reads p (.node e) [t] := by
  intro pending operands _
  refine ⟨pending, .node e :: operands, ?_, fun _ _ => rfl⟩
  rw [Stacks.steps, h]
  rfl

/-! ### Unwinding -/

theorem unwind_opener (yields : Operator → Bool) (opener : Opener) (loc : Location)
    (pending : List (Pending × Location)) (operands : List Operand) :
    unwind yields ((.opener opener, loc) :: pending) operands =
      .ok ((.opener opener, loc) :: pending, operands) := rfl

theorem unwind_operator {yields : Operator → Bool} {op : Operator} (hop : yields op = true)
    {loc : Location} {operands operands' : List Operand}
    (happly : op.apply loc operands = .ok operands') (pending : List (Pending × Location)) :
    unwind yields ((.operator op, loc) :: pending) operands = unwind yields pending operands' := by
  rw [unwind, if_pos hop, happly]
  rfl

/-- Where the top of the stack does not yield, nothing is applied. -/
theorem unwind_of_not_yields {yields : Operator → Bool} {pending : List (Pending × Location)}
    (h : ∀ op loc rest, pending = (.operator op, loc) :: rest → yields op = false)
    (operands : List Operand) : unwind yields pending operands = .ok (pending, operands) := by
  match pending with
  | [] => rfl
  | (.opener _, _) :: _ => rfl
  | (.operator op, loc) :: rest =>
    rw [unwind, h op loc rest rfl]
    rfl

/-- A waiting operator does not yield to one between two operands that may stand in its own right
operand. -/
theorem Operator.yieldsTo_of_rightLevel_le {waiting incoming : Operator}
    (hnotUnary : ∀ op, incoming ≠ .unary op) (h : waiting.rightLevel ≤ incoming.priority) :
    waiting.yieldsTo incoming = false := by
  have hbin := fun op : BinaryOp => priority_bounds op
  cases incoming with
  | unary op => exact absurd rfl (hnotUnary op)
  | _ =>
    cases waiting <;>
      simp only [Operator.rightLevel, Operator.priority] at h <;>
      simp only [Operator.yieldsTo, Operator.priority] <;> grind

theorem unwind_of_admits {op : Operator} (hnotUnary : ∀ u, op ≠ .unary u) {p : Nat}
    {pending : List (Pending × Location)} (hadm : Admits p pending) (hp : p ≤ op.priority)
    (operands : List Operand) :
    unwind (·.yieldsTo op) pending operands = .ok (pending, operands) := by
  apply unwind_of_not_yields
  rintro top loc rest rfl
  exact Operator.yieldsTo_of_rightLevel_le hnotUnary (Nat.le_trans hadm hp)

/-- Nothing binds tighter than level 12, so that what is read at level 13 leaves nothing waiting. -/
theorem Reads.steps_of_primary {x : Operand} {ts : List Token} (h : Reads 13 x ts)
    (pending : List (Pending × Location)) (operands : List Operand) :
    Stacks.steps ⟨pending, operands, false⟩ ts = .ok ⟨pending, x :: operands, true⟩ := by
  have hadm : Admits 13 pending := by
    match pending with
    | [] => trivial
    | (.opener _, _) :: _ => trivial
    | (.operator op, _) :: _ => exact Nat.le_succ_of_le op.rightLevel_le
  obtain ⟨pending', operands', hsteps, hunwind⟩ := h pending operands hadm
  -- Even unwinding that applies nothing finds `x` on top
  have heq := hunwind (fun _ => false) fun op hop =>
    absurd (Nat.le_trans hop op.priority_le) (by decide)
  rw [unwind_of_not_yields (fun _ _ _ _ => rfl), unwind_of_not_yields (fun _ _ _ _ => rfl)] at heq
  obtain ⟨rfl, rfl⟩ : pending' = pending ∧ operands' = x :: operands := by
    simpa using heq
  exact hsteps

/-! ### Operators between, before and around expressions -/

/-- An operator between two pieces. The left one is read at a level `q` from which on everything
yields to the operator. -/
theorem Reads.between (op : Operator) {p q : Nat} {x y z : Operand} {ts us : List Token} {t : Token}
    (hx : Reads q x ts) (ht : t.text ∈ punctuation)
    (hsymbol : Symbol.of? true t.text = some (.operator op)) (hy : Reads op.rightLevel y us)
    (hnotUnary : ∀ u, op ≠ .unary u) (hp : p ≤ op.priority) (hpq : p ≤ q)
    (hq : ∀ o : Operator, q ≤ o.priority → o.yieldsTo op = true)
    (happly : ∀ rest, op.apply t.loc (y :: x :: rest) = .ok (z :: rest)) :
    Reads p z (ts ++ t :: us) := by
  intro pending operands hadm
  -- The left piece may leave operators waiting; all of them yield to `op`, and nothing below does.
  obtain ⟨pending₁, operands₁, hsteps₁, hunwind₁⟩ := hx pending operands (hadm.mono hpq)
  have hshift : Stacks.step ⟨pending₁, operands₁, true⟩ t =
      .ok ⟨(.operator op, t.loc) :: pending, x :: operands, false⟩ := by
    rw [step_symbol (.operator op) ht hsymbol, Stacks.shift, hunwind₁ _ hq,
      unwind_of_admits hnotUnary hadm hp]
    rfl
  -- The right piece is read on top of `op`, which admits it by its right level.
  obtain ⟨pending₂, operands₂, hsteps₂, hunwind₂⟩ :=
    hy ((.operator op, t.loc) :: pending) (x :: operands) (Nat.le_refl _)
  refine ⟨pending₂, operands₂, ?_, ?_⟩
  · rw [steps_append, hsteps₁, Except.bind, Stacks.steps, hshift]
    exact hsteps₂
  · intro yields hyields
    -- Whatever makes `op` yield applies first what waits in the right piece, then `op` itself.
    have hright : ∀ o, op.rightLevel ≤ o.priority → yields o = true := fun o ho =>
      hyields o (Nat.le_trans hp (Nat.le_trans op.priority_le_rightLevel ho))
    rw [hunwind₂ yields hright, unwind_operator (hyields op hp) (happly operands)]

/-- A unary operator before an expression. -/
theorem Reads.unary {op : UnaryOp} {p : Nat} {e : Node} {ts : List Token} {t : Token}
    (he : Reads 12 (.node e) ts) (ht : t.text ∈ op.spellings) (hp : p ≤ 12) :
    Reads p (.node (.unary op e t.loc)) (t :: ts) := by
  have hmeaning : ∀ op : UnaryOp, ∀ text ∈ op.spellings, text ∈ punctuation ∧
      Symbol.of? false text = some (.operator (.unary op)) := by
    intro op
    cases op <;> decide
  obtain ⟨hpunct, hsymbol⟩ := hmeaning op t.text ht
  intro pending operands hadm
  have hshift : Stacks.step ⟨pending, operands, false⟩ t =
      .ok ⟨(.operator (.unary op), t.loc) :: pending, operands, false⟩ := by
    -- A unary operator starts an operand, so nothing that waits can be applied before it.
    have hstay : unwind (·.yieldsTo (.unary op)) pending operands = .ok (pending, operands) :=
      unwind_of_not_yields (fun _ _ _ _ => rfl) operands
    rw [step_symbol (.operator (.unary op)) hpunct hsymbol, Stacks.shift, hstay]
    rfl
  obtain ⟨pending', operands', hsteps, hunwind⟩ :=
    he ((.operator (.unary op), t.loc) :: pending) operands (Nat.le_refl 12)
  refine ⟨pending', operands', ?_, ?_⟩
  · rw [Stacks.steps, hshift]
    exact hsteps
  · intro yields hyields
    rw [hunwind yields fun o ho => hyields o (Nat.le_trans hp ho),
      unwind_operator (hyields (.unary op) hp) rfl]

/-- What stands between an opening bracket and its closing one, once everything that waits inside
has been applied. -/
theorem Reads.steps_close {p : Nat} {x : Operand} {ts : List Token} (hx : Reads p x ts)
    (opener : Opener) (loc : Location) (pending : List (Pending × Location))
    (operands : List Operand) :
    ∃ pending' operands',
      Stacks.steps ⟨(.opener opener, loc) :: pending, operands, false⟩ ts =
        .ok ⟨pending', operands', true⟩ ∧
      unwind (fun _ => true) pending' operands' =
        .ok ((.opener opener, loc) :: pending, x :: operands) := by
  obtain ⟨pending', operands', hsteps, hunwind⟩ :=
    hx ((.opener opener, loc) :: pending) operands trivial
  refine ⟨pending', operands', hsteps, ?_⟩
  rw [hunwind _ fun _ _ => rfl, unwind_opener]

theorem Reads.paren {p : Nat} {e : Node} {ts : List Token} {o c : Token} (ho : o.text = "(")
    (he : Reads 3 (.node e) ts) (hc : c.text = ")") : Reads p (.node e) (o :: ts ++ [c]) := by
  intro pending operands _
  obtain ⟨pending', operands', hsteps, hunwind⟩ :=
    he.steps_close .group o.loc pending operands
  refine ⟨pending, .node e :: operands, ?_, fun _ _ => rfl⟩
  have hopen : Stacks.step ⟨pending, operands, false⟩ o =
      .ok ⟨(.opener .group, o.loc) :: pending, operands, false⟩ :=
    step_symbol (.opener .group) (by rw [ho]; decide) (by rw [ho]; rfl)
  -- The closing parenthesis unwinds down to its own opener and no further.
  have hclose : Stacks.step ⟨pending', operands', true⟩ c =
      .ok ⟨pending, .node e :: operands, true⟩ := by
    rw [step_symbol .closeParen (by rw [hc]; decide) (by rw [hc]; rfl),
      Stacks.shift, hunwind]
    rfl
  rw [List.cons_append, Stacks.steps, hopen]
  show Stacks.steps _ (ts ++ [c]) = _
  rw [steps_append, hsteps, Except.bind, Stacks.steps, hclose]
  rfl

theorem Reads.index {p : Nat} {name : String} {indices : List Node} {index : Node}
    {loc : Location} {ts us : List Token} {o c : Token}
    (hvar : Reads 13 (.node (.var ⟨name, indices, loc⟩)) ts) (ho : o.text = "[")
    (hindex : Reads 3 (.node index) us) (hc : c.text = "]") :
    Reads p (.node (.var ⟨name, indices ++ [index], loc⟩)) (ts ++ o :: us ++ [c]) := by
  intro pending operands _
  obtain ⟨pending', operands', hsteps, hunwind⟩ :=
    hindex.steps_close .index o.loc pending
      (.node (.var ⟨name, indices, loc⟩) :: operands)
  refine ⟨pending, .node (.var ⟨name, indices ++ [index], loc⟩) :: operands, ?_, fun _ _ => rfl⟩
  have hopen : Stacks.step ⟨pending, .node (.var ⟨name, indices, loc⟩) :: operands, true⟩ o =
      .ok ⟨(.opener .index, o.loc) :: pending, .node (.var ⟨name, indices, loc⟩) :: operands,
        false⟩ :=
    step_symbol (.opener .index) (by rw [ho]; decide) (by rw [ho]; rfl)
  -- The closing bracket finds the index on top and the variable right below it.
  have hclose : Stacks.step ⟨pending', operands', true⟩ c =
      .ok ⟨pending, .node (.var ⟨name, indices ++ [index], loc⟩) :: operands, true⟩ := by
    rw [step_symbol .closeIndex (by rw [hc]; decide) (by rw [hc]; rfl),
      Stacks.shift, hunwind]
    rfl
  rw [List.append_assoc, steps_append, hvar.steps_of_primary, Except.bind, List.cons_append,
    Stacks.steps, hopen]
  show Stacks.steps _ (us ++ [c]) = _
  rw [steps_append, hsteps, Except.bind, Stacks.steps, hclose]
  rfl

/-! ### Arguments -/

/-- How the arguments of a call lie on the stack when its parenthesis closes. -/
def Operand.ofArguments : List Node → Operand
  | [] => .nothing
  | [arg] => .node arg
  | args => .arguments args

theorem popArguments_ofArguments (args : List Node) (rest : List Operand) :
    popArguments (.ofArguments args :: rest) = (args, rest) := by
  match args with
  | [] => rfl
  | [_] => rfl
  | _ :: _ :: _ => rfl

/-- A comma adds an argument to those before it. -/
theorem apply_comma {args : List Node} (hne : args ≠ []) (e : Node) (loc : Location)
    (rest : List Operand) :
    Operator.comma.apply loc (.node e :: .ofArguments args :: rest) =
      .ok (.ofArguments (args ++ [e]) :: rest) := by
  match args with
  | [] => exact absurd rfl hne
  | [_] => rfl
  | _ :: _ :: _ => rfl

/-- Two calls differ only in what stands between the parentheses, which reads as their arguments. -/
theorem reads_call {p : Nat} {args : List Node} {us : List Token} {t o c : Token}
    (ht : IsVariableName t.text) (ho : o.text = "(") (hc : c.text = ")")
    (hargs : args = [] ∧ us = [] ∨ Reads 2 (.ofArguments args) us) :
    Reads p (.node (.call t.text args t.loc)) (t :: o :: us ++ [c]) := by
  intro pending operands _
  refine ⟨pending, .node (.call t.text args t.loc) :: operands, ?_, fun _ _ => rfl⟩
  have hopen : Stacks.step ⟨pending, .node (.var ⟨t.text, [], t.loc⟩) :: operands, true⟩ o =
      .ok ⟨(.opener .call, o.loc) :: pending, .node (.var ⟨t.text, [], t.loc⟩) :: operands,
        false⟩ :=
    step_symbol (.opener .call) (by rw [ho]; decide) (by rw [ho]; rfl)
  have hshift : ∀ s : Stacks, s.step c = s.shift c.loc .closeParen := fun s =>
    step_symbol .closeParen (by rw [hc]; decide) (by rw [hc]; cases s.afterOperand <;> rfl)
  rw [List.cons_append, Stacks.steps, step_variable ht]
  show Stacks.steps ⟨pending, .node (.var ⟨t.text, [], t.loc⟩) :: operands, true⟩ (o :: us ++ [c]) = _
  rw [List.cons_append, Stacks.steps, hopen]
  rcases hargs with ⟨rfl, rfl⟩ | hargs
  · -- The parenthesis closes right away, and an empty place stands for the arguments
    show Stacks.steps _ [c] = _
    rw [Stacks.steps, hshift]
    rfl
  · obtain ⟨pending', operands', hsteps, hunwind⟩ :=
      hargs.steps_close .call o.loc pending
        (.node (.var ⟨t.text, [], t.loc⟩) :: operands)
    have hclose : Stacks.step ⟨pending', operands', true⟩ c =
        .ok ⟨pending, .node (.call t.text args t.loc) :: operands, true⟩ := by
      rw [hshift, Stacks.shift, hunwind]
      simp only [bind, Except.bind, closeParen, if_true, popArguments_ofArguments]
    show Stacks.steps _ (us ++ [c]) = _
    rw [steps_append, hsteps, Except.bind, Stacks.steps, hclose]
    rfl

/-! ## Section 4: Reading what has been written -/

theorem level_eq_priority (op : BinaryOp) : op.level = op.priority := by
  cases op <;> rfl

/-- The stack that a written variable leaves. -/
theorem exists_reads_var {p : Nat} {ref : Reference Node} {ts : List Token}
    (h : ∃ e, e.unplaced = (Node.var ref).unplaced ∧ Reads p (.node e) ts) :
    ∃ ref', unplacedRef ref' = unplacedRef ref ∧ Reads p (.node (.var ref')) ts := by
  obtain ⟨name, indices, loc⟩ := ref
  obtain ⟨e, he, hreads⟩ := h
  obtain ⟨indices', loc', rfl, hindices⟩ := Node.exists_var_of_unplaced he
  exact ⟨⟨name, indices', loc'⟩, by rw [unplacedRef, unplacedRef, hindices], hreads⟩

mutual

/-- Whatever is written is read back, up to places. The induction is on how it is written, and the
stacks below are arbitrary. -/
theorem Written.reads {p : Nat} {e : Node} {ts : List Token} :
    Written p e ts → ∃ e', e'.unplaced = e.unplaced ∧ Reads p (.node e') ts
  | @Written.literal _ value _ t ht =>
    ⟨.literal value t.loc, rfl, reads_token fun _ => step_literal ht⟩
  | .endl (t := t) ht => ⟨.endl t.loc, rfl, reads_token fun _ => step_endl ht⟩
  | .plain (t := t) ht =>
    ⟨.var ⟨t.text, [], t.loc⟩, rfl, reads_token fun _ => step_variable ht⟩
  | .index hvar ho hindex hc => by
    obtain ⟨v, hv, hvreads⟩ := hvar.reads
    obtain ⟨indices', loc', rfl, hindices⟩ := Node.exists_var_of_unplaced hv
    obtain ⟨i, hi, hireads⟩ := hindex.reads
    refine ⟨_, ?_, hvreads.index ho hireads hc⟩
    simp only [Node.unplaced, unplacedRef, unplacedAll_append, unplacedAll, hindices, hi]
  | .call ht ho hargs hc => by
    obtain ⟨args', hargs', hreads⟩ := hargs.reads
    refine ⟨_, ?_, reads_call ht ho hc hreads⟩
    simp only [Node.unplaced, hargs']
  | .unary hp ht hoperand => by
    obtain ⟨operand', hoperand', hreads⟩ := hoperand.reads
    refine ⟨_, ?_, hreads.unary ht hp⟩
    simp only [Node.unplaced, hoperand']
  | @Written.binary _ op _ _ _ _ _ t hp hleft ht hright => by
    obtain ⟨l, hl, hlreads⟩ := hleft.reads
    obtain ⟨r, hr, hrreads⟩ := hright.reads
    have hmeaning : op.symbol ∈ punctuation ∧
        Symbol.of? true op.symbol = some (.operator (.binary op)) := by
      cases op <;> decide
    -- The left operand may be of the same level: what waits in it yields to the operator.
    rw [level_eq_priority] at hp hlreads hrreads
    refine ⟨.binary op l r t.loc, by simp only [Node.unplaced, hl, hr], ?_⟩
    exact Reads.between (.binary op) hlreads (ht ▸ hmeaning.1) (ht ▸ hmeaning.2) hrreads
      nofun hp hp (fun o ho => decide_eq_true ho) (fun _ => rfl)
  | .assignment (t := t) hp htarget ht hvalue => by
    obtain ⟨target', htarget', htreads⟩ := exists_reads_var htarget.reads
    obtain ⟨v, hv, hvreads⟩ := hvalue.reads
    refine ⟨.assignment target' v t.loc, by simp only [Node.unplaced, htarget', hv], ?_⟩
    exact Reads.between .assign htreads (by rw [ht]; decide) (by rw [ht]; rfl) hvreads
      nofun hp (Nat.le_trans hp (by decide))
      (fun o ho => absurd (Nat.le_trans ho o.priority_le) (by decide)) (fun _ => rfl)
  | .input (t := t) ht => ⟨.input [] t.loc, rfl, reads_token fun _ => step_input ht⟩
  | .extract hp hinput ht htarget => by
    obtain ⟨i, hi, hireads⟩ := hinput.reads
    obtain ⟨targets', loc', rfl, htargets⟩ := Node.exists_input_of_unplaced hi
    obtain ⟨target', htarget', htreads⟩ := exists_reads_var htarget.reads
    refine ⟨.input (targets' ++ [target']) loc', ?_, ?_⟩
    · simp only [Node.unplaced, unplacedRefs_append, unplacedRefs, htargets, htarget']
    · exact Reads.between .extract hireads (by rw [ht]; decide) (by rw [ht]; rfl) htreads
        nofun hp hp (fun o ho => decide_eq_true ho) (fun _ => rfl)
  | .output (t := t) ht => ⟨.output [] t.loc, rfl, reads_token fun _ => step_output ht⟩
  | .insert hp houtput ht hitem => by
    obtain ⟨o, ho, horeads⟩ := houtput.reads
    obtain ⟨items', loc', rfl, hitems⟩ := Node.exists_output_of_unplaced ho
    obtain ⟨i, hi, hireads⟩ := hitem.reads
    refine ⟨.output (items' ++ [i]) loc', ?_, ?_⟩
    · simp only [Node.unplaced, unplacedAll_append, unplacedAll, hitems, hi]
    · exact Reads.between .insert horeads (by rw [ht]; decide) (by rw [ht]; rfl) hireads
        nofun hp hp (fun o ho => decide_eq_true ho) (fun _ => rfl)
  | .paren ho he hc => by
    obtain ⟨e', he', hreads⟩ := he.reads
    exact ⟨e', he', hreads.paren ho hc⟩

/-- The arguments of a call are read back, or there is nothing to read. -/
theorem WrittenArgs.reads {args : List Node} {ts : List Token} :
    WrittenArgs args ts → ∃ args', unplacedAll args' = unplacedAll args ∧
      (args' = [] ∧ ts = [] ∨ Reads 2 (.ofArguments args') ts)
  | .none => ⟨[], rfl, .inl ⟨rfl, rfl⟩⟩
  | .one he => by
    obtain ⟨e', he', hreads⟩ := he.reads
    refine ⟨[e'], by simp only [unplacedAll, he'], .inr ?_⟩
    exact hreads.mono (by decide)
  | .more hne hargs ht he => by
    obtain ⟨args', hargs', hreads⟩ := hargs.reads
    obtain ⟨e', he', hereads⟩ := he.reads
    -- Forgetting places keeps the number of arguments, so there is one before the comma.
    have hne' : args' ≠ [] := by
      rintro rfl
      rw [unplacedAll_eq_map, unplacedAll_eq_map, List.map_nil, eq_comm, List.map_eq_nil_iff] at hargs'
      exact hne hargs'
    have hargsReads := hreads.resolve_left fun h => hne' h.1
    refine ⟨args' ++ [e'], ?_, .inr ?_⟩
    · simp only [unplacedAll_append, unplacedAll, hargs', he']
    · exact Reads.between .comma hargsReads (by rw [ht]; decide) (by rw [ht]; rfl) hereads
        nofun (Nat.le_refl 2) (Nat.le_refl 2) (fun o ho => decide_eq_true ho)
        (fun rest => apply_comma hne' e' _ rest)

end

/-- What a single expression leaves on the stacks is taken as the whole. -/
theorem read_of_reads {e : Node} {ts : List Token} (hne : ts ≠ []) (h : Reads 3 (.node e) ts) :
    read ts = .ok e := by
  obtain ⟨t, ts, rfl⟩ := List.exists_cons_of_ne_nil hne
  obtain ⟨pending', operands', hsteps, hunwind⟩ :=
    h.steps_close .group t.loc [] []
  rw [read, Stacks.start, hsteps]
  show Stacks.finish _ _ = _
  rw [Stacks.finish, Stacks.shift, hunwind]
  rfl

theorem Written.ne_nil {p : Nat} {e : Node} {ts : List Token} (h : Written p e ts) : ts ≠ [] := by
  cases h <;> simp

/-- However an expression is written, it is read back up to places. -/
theorem exists_read_of_written {e : Node} {ts : List Token} (h : Written 3 e ts) :
    ∃ e', read ts = .ok e' ∧ e'.unplaced = e.unplaced := by
  obtain ⟨e', he', hreads⟩ := h.reads
  exact ⟨e', read_of_reads h.ne_nil hreads, he'⟩

/-- **Writing and then reading is the identity.** An expression tree can be written, and
whichever way it is written, with at least the parentheses that levels and directions ask for, it
is read back as it was, up to places. -/
theorem read_written (e : Node) (he : e.IsExpression) :
    (∃ ts, Written 3 e ts) ∧
      ∀ ts, Written 3 e ts → ∃ e', read ts = .ok e' ∧ e'.unplaced = e.unplaced :=
  ⟨exists_written he 3, fun _ hts => exists_read_of_written hts⟩

/-- The parentheses in `a - (b - c)` are needed, and they are enough. -/
theorem read_written_difference :
    (Node.binary .sub (.var ⟨"a", [], .start⟩)
        (.binary .sub (.var ⟨"b", [], .start⟩) (.var ⟨"c", [], .start⟩) .start) .start).IsExpression ∧
      ∃ e', read (["a", "-", "(", "b", "-", "c", ")"].map (Token.mk · .start)) = .ok e' ∧
        e'.unplaced = (Node.binary .sub (.var ⟨"a", [], .start⟩)
          (.binary .sub (.var ⟨"b", [], .start⟩) (.var ⟨"c", [], .start⟩) .start) .start).unplaced := by
  have hname : ∀ text ∈ ["a", "b", "c"], IsVariableName text := by
    unfold IsVariableName
    decide
  have hexpr : ∀ text ∈ ["a", "b", "c"], (Node.var ⟨text, [], .start⟩).IsExpression :=
    fun text htext => ⟨hname text htext, trivial⟩
  have hwritten : ∀ text ∈ ["a", "b", "c"], ∀ p,
      Written p (.var ⟨text, [], .start⟩) [⟨text, .start⟩] :=
    fun text htext p => .plain (t := ⟨text, .start⟩) (hname text htext)
  have htree : (Node.binary .sub (.var ⟨"a", [], .start⟩) (.binary .sub (.var ⟨"b", [], .start⟩)
      (.var ⟨"c", [], .start⟩) .start) .start).IsExpression :=
    ⟨hexpr "a" (by decide), hexpr "b" (by decide), hexpr "c" (by decide)⟩
  have hinner : Written 3 (.binary .sub (.var ⟨"b", [], .start⟩) (.var ⟨"c", [], .start⟩) .start)
      ([⟨"b", .start⟩] ++ ⟨"-", .start⟩ :: [⟨"c", .start⟩]) :=
    .binary (by decide) (hwritten "b" (by decide) _) rfl (hwritten "c" (by decide) _)
  refine ⟨htree, (read_written _ htree).2 _ ?_⟩
  exact .binary (by decide) (hwritten "a" (by decide) _) rfl
    (.paren (o := ⟨"(", .start⟩) (c := ⟨")", .start⟩) rfl hinner rfl)

end Stepwise.Expression
