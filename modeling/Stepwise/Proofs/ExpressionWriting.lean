import Mathlib.Data.List.Induction
import Stepwise.Proofs.Unplaced
import Stepwise.Token

/-!
# How expressions are written

`Expression.Written p e ts` says that the tokens `ts` are a way to write the expression tree `e` in
a place where everything must bind at least as tightly as level `p`. It is the grammar of the
language and knows nothing of the reader: parentheses may stand around any expression, and they
must stand where the table of levels or the direction of an operator asks for them.

Places play no part: neither those of the tree nor those of the tokens.

## Main results

- `exists_written`: every expression tree can be written, at every level.
-/

namespace Stepwise

/-! ## Section 1: Levels and lexemes -/

/-- How tightly a binary operator binds; unary operators bind at 12, assignments at 4 and the
stream operators at 3. -/
def BinaryOp.level : BinaryOp → Nat
  | mul | div | mod => 11
  | add | sub => 10
  | lt | le | gt | ge => 9
  | eq | ne => 8
  | xor => 7
  | and => 6
  | or => 5

/-- The texts that a unary operator can be written with. -/
def UnaryOp.spellings : UnaryOp → List String
  | plus => ["+", "++"]
  | neg => ["-", "--"]
  | not => ["!"]

namespace Expression

/-- The words of expressions that name neither a variable nor a function. -/
def streamWords : List String := ["cin", "cout", "endl"]

/-- Whether a text can name a variable or a function: a word that does not start with a digit and
is no stream word. -/
def IsVariableName (text : String) : Prop :=
  (Token.mk text .start).isName = true ∧ text ∉ streamWords

/-- Whether a text is a numeral of this value: its decimal digits, after any number of zeros. -/
def IsNumeralOf (value : Int32) (text : String) : Prop :=
  0 ≤ value ∧ ∃ zeros, text.toList = List.replicate zeros '0' ++ Nat.toDigits 10 value.toInt.toNat

/-! ## Section 2: The grammar -/

mutual

/-- The ways to write an expression where level `p` is asked for. At level 3 nothing is asked for,
and level 13 asks for an expression that is complete in itself. -/
inductive Written : Nat → Node → List Token → Prop where
  | literal {p : Nat} {value : Int32} {loc : Location} {t : Token}
      (ht : IsNumeralOf value t.text) :
      Written p (.literal value loc) [t]
  | endl {p : Nat} {loc : Location} {t : Token} (ht : t.text = "endl") :
      Written p (.endl loc) [t]
  | plain {p : Nat} {loc : Location} {t : Token} (ht : IsVariableName t.text) :
      Written p (.var ⟨t.text, [], loc⟩) [t]
  /-- An index follows a variable that may have indices already. -/
  | index {p : Nat} {name : String} {indices : List Node} {index : Node} {loc loc' : Location}
      {ts us : List Token} {o c : Token}
      (hvar : Written 13 (.var ⟨name, indices, loc⟩) ts) (ho : o.text = "[")
      (hindex : Written 3 index us) (hc : c.text = "]") :
      Written p (.var ⟨name, indices ++ [index], loc'⟩) (ts ++ o :: us ++ [c])
  | call {p : Nat} {args : List Node} {loc : Location} {us : List Token} {t o c : Token}
      (ht : IsVariableName t.text) (ho : o.text = "(") (hargs : WrittenArgs args us)
      (hc : c.text = ")") :
      Written p (.call t.text args loc) (t :: o :: us ++ [c])
  | unary {p : Nat} {op : UnaryOp} {operand : Node} {loc : Location} {ts : List Token} {t : Token}
      (hp : p ≤ 12) (ht : t.text ∈ op.spellings) (hoperand : Written 12 operand ts) :
      Written p (.unary op operand loc) (t :: ts)
  /-- Binary operators associate to the left, so only the right operand must bind tighter. -/
  | binary {p : Nat} {op : BinaryOp} {left right : Node} {loc : Location} {ts us : List Token}
      {t : Token} (hp : p ≤ op.level) (hleft : Written op.level left ts) (ht : t.text = op.symbol)
      (hright : Written (op.level + 1) right us) :
      Written p (.binary op left right loc) (ts ++ t :: us)
  /-- Assignments associate to the right. -/
  | assignment {p : Nat} {target : Reference Node} {value : Node} {loc : Location}
      {ts us : List Token} {t : Token} (hp : p ≤ 4) (htarget : Written 13 (.var target) ts)
      (ht : t.text = "=") (hvalue : Written 4 value us) :
      Written p (.assignment target value loc) (ts ++ t :: us)
  | input {p : Nat} {loc : Location} {t : Token} (ht : t.text = "cin") :
      Written p (.input [] loc) [t]
  /-- One more variable to read into. -/
  | extract {p : Nat} {targets : List (Reference Node)} {target : Reference Node}
      {loc loc' : Location} {ts us : List Token} {t : Token} (hp : p ≤ 3)
      (hinput : Written 3 (.input targets loc) ts) (ht : t.text = ">>")
      (htarget : Written 4 (.var target) us) :
      Written p (.input (targets ++ [target]) loc') (ts ++ t :: us)
  | output {p : Nat} {loc : Location} {t : Token} (ht : t.text = "cout") :
      Written p (.output [] loc) [t]
  /-- One more item to print. -/
  | insert {p : Nat} {items : List Node} {item : Node} {loc loc' : Location}
      {ts us : List Token} {t : Token} (hp : p ≤ 3)
      (houtput : Written 3 (.output items loc) ts) (ht : t.text = "<<")
      (hitem : Written 4 item us) :
      Written p (.output (items ++ [item]) loc') (ts ++ t :: us)
  /-- Parentheses may stand around any expression, needed or not. -/
  | paren {p : Nat} {e : Node} {ts : List Token} {o c : Token}
      (ho : o.text = "(") (he : Written 3 e ts) (hc : c.text = ")") :
      Written p e (o :: ts ++ [c])

/-- The ways to write the arguments of a call between its parentheses. -/
inductive WrittenArgs : List Node → List Token → Prop where
  | none : WrittenArgs [] []
  | one {e : Node} {ts : List Token} (he : Written 3 e ts) : WrittenArgs [e] ts
  | more {args : List Node} {e : Node} {ts us : List Token} {t : Token} (hne : args ≠ [])
      (hargs : WrittenArgs args ts) (ht : t.text = ",") (he : Written 3 e us) :
      WrittenArgs (args ++ [e]) (ts ++ t :: us)

end

end Expression

/-! ## Section 3: Expression trees -/

open Expression (IsVariableName)

mutual

/-- The trees that are expressions: no statements, no negative literals, and names that can be
written. -/
def Node.IsExpression : Node → Prop
  | .literal value _ => 0 ≤ value
  | .var ref => IsVariable ref
  | .call callee args _ => IsVariableName callee ∧ AllExpressions args
  | .unary _ operand _ => operand.IsExpression
  | .binary _ left right _ => left.IsExpression ∧ right.IsExpression
  | .assignment target value _ => IsVariable target ∧ value.IsExpression
  | .input targets _ => AllVariables targets
  | .output items _ => AllExpressions items
  | .endl _ => True
  | _ => False

/-- Whether every tree of a list is an expression. -/
def AllExpressions : List Node → Prop
  | [] => True
  | node :: nodes => node.IsExpression ∧ AllExpressions nodes

/-- Whether a variable has a name that can be written, and expressions for indices. -/
def IsVariable : Reference Node → Prop
  | ⟨name, indices, _⟩ => IsVariableName name ∧ AllExpressions indices

/-- Whether every variable of a list can be written. -/
def AllVariables : List (Reference Node) → Prop
  | [] => True
  | ref :: refs => IsVariable ref ∧ AllVariables refs

end

namespace Expression

/-! ## Section 4: Every expression can be written -/

/-- What can be written where nothing is asked for can be written at every level. -/
theorem exists_written_of_loosest {e : Node} (h : ∃ ts, Written 3 e ts) (p : Nat) :
    ∃ ts, Written p e ts := by
  obtain ⟨ts, hts⟩ := h
  exact ⟨⟨"(", .start⟩ :: ts ++ [⟨")", .start⟩], .paren rfl hts rfl⟩

/-- A variable is written with its indices behind it, by induction from the last one. -/
theorem exists_written_var {name : String} {indices : List Node} {loc : Location}
    (hname : IsVariableName name) (h : ∀ index ∈ indices, ∃ ts, Written 3 index ts) (p : Nat) :
    ∃ ts, Written p (.var ⟨name, indices, loc⟩) ts := by
  induction indices using List.reverseRecOn generalizing p with
  | nil => exact ⟨[⟨name, .start⟩], .plain (t := ⟨name, .start⟩) hname⟩
  | append_singleton indices index ih =>
    obtain ⟨ts, hts⟩ := ih (fun i hi => h i (List.mem_append_left _ hi)) 13
    obtain ⟨us, hus⟩ := h index (List.mem_append_right _ (List.mem_singleton_self index))
    exact ⟨ts ++ ⟨"[", .start⟩ :: us ++ [⟨"]", .start⟩], .index hts rfl hus rfl⟩

/-- Arguments are written with commas between them. -/
theorem exists_writtenArgs {args : List Node} (h : ∀ e ∈ args, ∃ ts, Written 3 e ts) :
    ∃ ts, WrittenArgs args ts := by
  induction args using List.reverseRecOn with
  | nil => exact ⟨[], .none⟩
  | append_singleton args e ih =>
    obtain ⟨ts, hts⟩ := ih (fun x hx => h x (List.mem_append_left _ hx))
    obtain ⟨us, hus⟩ := h e (List.mem_append_right _ (List.mem_singleton_self e))
    -- The first argument has no comma in front of it.
    by_cases hne : args = []
    · subst hne
      exact ⟨us, .one hus⟩
    · exact ⟨ts ++ ⟨",", .start⟩ :: us, .more hne hts rfl hus⟩

theorem exists_written_input {targets : List (Reference Node)} {loc : Location}
    (h : ∀ target ∈ targets, ∃ ts, Written 4 (.var target) ts) :
    ∃ ts, Written 3 (.input targets loc) ts := by
  induction targets using List.reverseRecOn with
  | nil => exact ⟨[⟨"cin", .start⟩], .input rfl⟩
  | append_singleton targets target ih =>
    obtain ⟨ts, hts⟩ := ih (fun x hx => h x (List.mem_append_left _ hx))
    obtain ⟨us, hus⟩ := h target (List.mem_append_right _ (List.mem_singleton_self target))
    exact ⟨ts ++ ⟨">>", .start⟩ :: us, .extract (Nat.le_refl 3) hts rfl hus⟩

theorem exists_written_output {items : List Node} {loc : Location}
    (h : ∀ item ∈ items, ∃ ts, Written 3 item ts) :
    ∃ ts, Written 3 (.output items loc) ts := by
  induction items using List.reverseRecOn with
  | nil => exact ⟨[⟨"cout", .start⟩], .output rfl⟩
  | append_singleton items item ih =>
    obtain ⟨ts, hts⟩ := ih (fun x hx => h x (List.mem_append_left _ hx))
    obtain ⟨us, hus⟩ := exists_written_of_loosest
      (h item (List.mem_append_right _ (List.mem_singleton_self item))) 4
    exact ⟨ts ++ ⟨"<<", .start⟩ :: us, .insert (Nat.le_refl 3) hts rfl hus⟩

mutual

/-- Every expression can be written where nothing is asked for, its parts in parentheses where need be. -/
theorem exists_written_loosest : (e : Node) → e.IsExpression → ∃ ts, Written 3 e ts
  -- Any numeral of the value will do, and the digits without zeros in front are one.
  | .literal value _, h => by
    refine ⟨[⟨String.ofList (Nat.toDigits 10 value.toInt.toNat), .start⟩], .literal ⟨h, 0, ?_⟩⟩
    rw [String.toList_ofList, List.replicate_zero, List.nil_append]
  | .var ref, h => exists_written_ref ref h 3
  | .call callee args _, h => by
    obtain ⟨us, hus⟩ := exists_writtenArgs (exists_written_all args h.2)
    exact ⟨⟨callee, .start⟩ :: ⟨"(", .start⟩ :: us ++ [⟨")", .start⟩],
      .call (t := ⟨callee, .start⟩) h.1 rfl hus rfl⟩
  | .unary op operand _, h => by
    obtain ⟨ts, hts⟩ := exists_written_of_loosest (exists_written_loosest operand h) 12
    refine ⟨⟨op.symbol, .start⟩ :: ts, .unary (by decide) ?_ hts⟩
    cases op <;> decide
  -- The right operand is asked to bind tighter, since these operators associate to the left.
  | .binary op left right _, h => by
    obtain ⟨ts, hts⟩ := exists_written_of_loosest (exists_written_loosest left h.1) op.level
    obtain ⟨us, hus⟩ := exists_written_of_loosest (exists_written_loosest right h.2) (op.level + 1)
    refine ⟨ts ++ ⟨op.symbol, .start⟩ :: us, .binary ?_ hts rfl hus⟩
    cases op <;> decide
  -- A variable is never in need of parentheses, and so it can stand at the tightest level.
  | .assignment target value _, h => by
    obtain ⟨ts, hts⟩ := exists_written_ref target h.1 13
    obtain ⟨us, hus⟩ := exists_written_of_loosest (exists_written_loosest value h.2) 4
    exact ⟨ts ++ ⟨"=", .start⟩ :: us, .assignment (by decide) hts rfl hus⟩
  | .input targets _, h => exists_written_input (exists_written_refs targets h)
  | .output items _, h => exists_written_output (exists_written_all items h)
  | .endl _, _ => ⟨[⟨"endl", .start⟩], .endl rfl⟩

theorem exists_written_all : (nodes : List Node) → AllExpressions nodes →
    ∀ e ∈ nodes, ∃ ts, Written 3 e ts
  | [], _ => fun _ he => absurd he List.not_mem_nil
  | node :: nodes, h =>
    List.forall_mem_cons.2 ⟨exists_written_loosest node h.1, exists_written_all nodes h.2⟩

theorem exists_written_ref : (ref : Reference Node) → IsVariable ref →
    ∀ p, ∃ ts, Written p (.var ref) ts
  | ⟨_, indices, _⟩, h => exists_written_var h.1 (exists_written_all indices h.2)

theorem exists_written_refs : (refs : List (Reference Node)) → AllVariables refs →
    ∀ ref ∈ refs, ∃ ts, Written 4 (.var ref) ts
  | [], _ => fun _ hx => absurd hx List.not_mem_nil
  | ref :: refs, h =>
    List.forall_mem_cons.2 ⟨exists_written_ref ref h.1 4, exists_written_refs refs h.2⟩

end

/-- Every expression tree can be written, at every level. -/
theorem exists_written {e : Node} (h : e.IsExpression) (p : Nat) : ∃ ts, Written p e ts :=
  exists_written_of_loosest (exists_written_loosest e h) p

end Expression

end Stepwise
