import Mathlib.Data.Int.ModEq
import Stepwise.Proofs.Actions

/-!
# Arithmetic and its residues

Sums, differences, products and signs wrap around at every single operation. This loses nothing that a
single wrap at the end would keep: taking integers to their 32-bit residues respects each of these
operations, so however deeply they are nested, the value is the residue of the exact result.

Quotients are not respected in this way, but a quotient and a remainder still make up the dividend
again, also where the quotient itself has to wrap.

## Main results

* `eval_formula`: the value of an arithmetic expression is the residue of its exact value.
* `isDivision_div_mod`: what a quotient and a remainder have to do with each other.
* `arithmetic_wraps_exactly`: both, as evaluation has them.
-/

namespace Stepwise

open Machine Exec

/-! ## Section 1: Arithmetic expressions -/

/-- The signs before an operand. -/
inductive Sign where
  | plus
  | neg
deriving DecidableEq, Repr

/-- The operators between operands that wrap and cannot fail. -/
inductive Join where
  | add
  | sub
  | mul
deriving DecidableEq, Repr

namespace Sign

/-- The operator that is written. -/
def op : Sign → UnaryOp
  | plus => .plus
  | neg => .neg

/-- What a sign does to an integer. -/
def exact : Sign → Int → Int
  | plus, a => a
  | neg, a => -a

end Sign

namespace Join

/-- The operator that is written. -/
def op : Join → BinaryOp
  | add => .add
  | sub => .sub
  | mul => .mul

/-- What an operator makes of two integers. -/
def exact : Join → Int → Int → Int
  | add, a, b => a + b
  | sub, a, b => a - b
  | mul, a, b => a * b

end Join

/-- An arithmetic expression: what signs, sums, differences and products make of literals and of
variables without indices. -/
inductive Formula where
  | literal (value : Int32) (loc : Location)
  | var (name : String) (loc : Location)
  | signed (sign : Sign) (operand : Formula) (loc : Location)
  | joined (join : Join) (left right : Formula) (loc : Location)
deriving Repr

namespace Formula

/-- The tree of an arithmetic expression. -/
def node : Formula → Node
  | literal value loc => .literal value loc
  | var name loc => .var (.plain name loc)
  | signed sign operand loc => .unary sign.op operand.node loc
  | joined join left right loc => .binary join.op left.node right.node loc

/-- The exact value of an arithmetic expression, in which nothing wraps. -/
def exact (stored : String → Int32) : Formula → Int
  | literal value _ => value.toInt
  | var name _ => (stored name).toInt
  | signed sign operand _ => sign.exact (operand.exact stored)
  | joined join left right _ => join.exact (left.exact stored) (right.exact stored)

end Formula

/-! ## Section 2: Residues -/

/-- The residue of an integer: what is left of it in 32 bits with a sign. -/
structure IsResidue (exact residue : Int) : Prop where
  le : -2 ^ 31 ≤ residue
  lt : residue < 2 ^ 31
  congruent : residue ≡ exact [ZMOD 2 ^ 32]

/-- Two residues of one integer differ by a multiple of 2 ^ 32, and so not at all. -/
theorem IsResidue.unique {exact a b : Int} (ha : IsResidue exact a) (hb : IsResidue exact b) :
    a = b := by
  have hsame : a % 2 ^ 32 = b % 2 ^ 32 := ha.congruent.trans hb.congruent.symm
  have hale := ha.le
  have halt := ha.lt
  have hble := hb.le
  have hblt := hb.lt
  omega

theorem isResidue_ofInt (n : Int) : IsResidue n (Int32.ofInt n).toInt := by
  refine ⟨Int32.le_toInt _, Int32.toInt_lt _, ?_⟩
  rw [Int32.toInt_ofInt]
  exact Int.bmod_emod

theorem isResidue_iff (n a : Int) : IsResidue n a ↔ a = (Int32.ofInt n).toInt := by
  constructor
  · intro h
    exact h.unique (isResidue_ofInt n)
  · rintro rfl
    exact isResidue_ofInt n

/-- Signs respect residues. -/
theorem Sign.apply_ofInt (sign : Sign) (a : Int) :
    sign.op.apply (Int32.ofInt a) = Int32.ofInt (sign.exact a) := by
  cases sign with
  | plus => rfl
  | neg => exact (Int32.ofInt_neg a).symm

/-- Sums, differences and products respect residues. -/
theorem Join.apply?_ofInt (join : Join) (a b : Int) :
    join.op.apply? (Int32.ofInt a) (Int32.ofInt b) = some (Int32.ofInt (join.exact a b)) := by
  cases join with
  | add => exact congrArg some (Int32.ofInt_add a b).symm
  | sub => exact congrArg some (Int32.ofInt_sub a b).symm
  | mul => exact congrArg some (Int32.ofInt_mul a b).symm

/-! ## Section 3: Evaluation -/

section

variable {ctx : Context} {enter : Enter} {m m₁ m₂ : Machine} {left right : Node} {op : BinaryOp}
  {loc : Location} {x y : Int32}

/-- An operator between operands that have given their values has a value, or it is a division by
zero. -/
theorem eval_binary_of_ok (hleft : eval ctx enter left m = .ok x m₁)
    (hright : eval ctx enter right m₁ = .ok y m₂) :
    eval ctx enter (.binary op left right loc) m =
      match op.apply? x y with
      | some value => .ok value m₂
      | none => .error (.fault (.divisionByZero loc)) m₂ := by
  rw [eval, bind_of_ok hleft, bind_of_ok hright]
  cases op.apply? x y with
  | some value => rfl
  | none => rfl

/-- It is one if and only if the operator has no value. -/
theorem eval_binary_divides_by_zero_iff (hleft : eval ctx enter left m = .ok x m₁)
    (hright : eval ctx enter right m₁ = .ok y m₂) :
    eval ctx enter (.binary op left right loc) m = .error (.fault (.divisionByZero loc)) m₂ ↔
      op.apply? x y = none := by
  rw [eval_binary_of_ok hleft hright]
  cases op.apply? x y with
  | some value => simp
  | none => simp

/-- The value of an arithmetic expression is the residue of its exact value, by induction on the
expression. Nothing else happens on the way. -/
theorem eval_formula (ctx : Context) (enter : Enter) (f : Formula) (m : Machine) :
    eval ctx enter f.node m = .ok (Int32.ofInt (f.exact (m.store.get m.scope))) m := by
  induction f with
  | literal value loc =>
    rw [Formula.node, Formula.exact, Int32.ofInt_toInt, eval]
    rfl
  | var name loc =>
    have hslot : slot ctx enter (.plain name loc) m = .ok name m :=
      congrArg (EStateM.Result.ok · m) (Slot.key_nil name)
    rw [Formula.node, Formula.exact, Int32.ofInt_toInt, eval, bind_of_ok hslot]
    rfl
  | signed sign operand loc ih =>
    rw [Formula.node, Formula.exact, eval, bind_of_ok ih, Sign.apply_ofInt]
    rfl
  | joined join left right loc ihleft ihright =>
    rw [Formula.node, Formula.exact, eval_binary_of_ok ihleft ihright, Join.apply?_ofInt]

/-! ## Section 4: Quotients and remainders -/

/-- A quotient and a remainder of `x` by `y`: together they make up `x` again, the remainder is smaller
than `y`, and it has the sign of `x` unless it is zero. -/
structure IsDivision (x y quotient remainder : Int32) : Prop where
  whole : IsResidue (quotient.toInt * y.toInt + remainder.toInt) x.toInt
  small : remainder.toInt.natAbs < y.toInt.natAbs
  sign : remainder = 0 ∨ remainder.toInt.sign = x.toInt.sign

theorem isDivision_div_mod (h : y ≠ 0) : IsDivision x y (x / y) (x % y) := by
  have hne : y.toInt ≠ 0 := fun hzero => h (Int32.toInt_inj.mp hzero)
  refine ⟨?_, ?_, ?_⟩
  · -- The exact quotient would make up the dividend, and a wrapped one does so up to a wrap.
    have hexact : x.toInt.tdiv y.toInt * y.toInt + x.toInt.tmod y.toInt = x.toInt :=
      Int.tdiv_mul_add_tmod x.toInt y.toInt
    have hquotient : (x / y).toInt ≡ x.toInt.tdiv y.toInt [ZMOD 2 ^ 32] := by
      rw [Int32.toInt_div]
      exact Int.bmod_emod
    refine ⟨Int32.le_toInt x, Int32.toInt_lt x, ?_⟩
    rw [Int32.toInt_mod]
    calc x.toInt = x.toInt.tdiv y.toInt * y.toInt + x.toInt.tmod y.toInt := hexact.symm
      _ ≡ (x / y).toInt * y.toInt + x.toInt.tmod y.toInt [ZMOD 2 ^ 32] :=
          (hquotient.symm.mul_right _).add_right _
  · rw [Int32.toInt_mod, Int.natAbs_tmod]
    exact Nat.mod_lt _ (Int.natAbs_pos.mpr hne)
  · rw [← Int32.toInt_inj, Int32.toInt_mod, Int.sign_tmod]
    split
    · next hdvd => exact .inl (Int.tmod_eq_zero_of_dvd hdvd)
    · exact .inr rfl

/-- The only quotient that wraps. -/
example : BinaryOp.div.apply? Int32.minValue (-1) = some Int32.minValue := by decide

end

/-! ## Section 5: All of it -/

/-- Arithmetic is exact up to one wrap. On every machine, an arithmetic expression has a value, the
machine stays as it is, and the value is the one and only residue of the exact value. Of two arithmetic
expressions, the quotient and the remainder fail where the operator stands if and only if the second
value is zero, and otherwise they make up the first value as a quotient and a remainder should. -/
theorem arithmetic_wraps_exactly (ctx : Context) (enter : Enter) (m : Machine) :
    (∀ f : Formula, ∃ v, eval ctx enter f.node m = .ok v m ∧
      ∀ n : Int, IsResidue (f.exact (m.store.get m.scope)) n ↔ n = v.toInt) ∧
    ∀ (a b : Formula) (loc : Location), ∃ x y,
      eval ctx enter a.node m = .ok x m ∧ eval ctx enter b.node m = .ok y m ∧
      (eval ctx enter (.binary .div a.node b.node loc) m = .error (.fault (.divisionByZero loc)) m ↔
        y = 0) ∧
      (eval ctx enter (.binary .mod a.node b.node loc) m = .error (.fault (.divisionByZero loc)) m ↔
        y = 0) ∧
      (y ≠ 0 → ∃ quotient remainder,
        eval ctx enter (.binary .div a.node b.node loc) m = .ok quotient m ∧
        eval ctx enter (.binary .mod a.node b.node loc) m = .ok remainder m ∧
        IsDivision x y quotient remainder) := by
  constructor
  · intro f
    exact ⟨_, eval_formula ctx enter f m, fun n => isResidue_iff _ n⟩
  · intro a b loc
    have ha := eval_formula ctx enter a m
    have hb := eval_formula ctx enter b m
    refine ⟨_, _, ha, hb, ?_⟩
    generalize Int32.ofInt (a.exact (m.store.get m.scope)) = x at ha
    generalize Int32.ofInt (b.exact (m.store.get m.scope)) = y at hb
    refine ⟨?_, ?_, fun hy => ⟨x / y, x % y, ?_, ?_, isDivision_div_mod hy⟩⟩
    · rw [eval_binary_divides_by_zero_iff ha hb, BinaryOp.apply?]
      simp
    · rw [eval_binary_divides_by_zero_iff ha hb, BinaryOp.apply?]
      simp
    · rw [eval_binary_of_ok ha hb, BinaryOp.apply?, if_neg hy]
    · rw [eval_binary_of_ok ha hb, BinaryOp.apply?, if_neg hy]

/-- A variable that holds the smallest integer is divided by minus one. -/
theorem arithmetic_wraps_exactly_smallest :
    let ctx : Context := ⟨{}, .usual⟩
    let enter : Enter := fun _ _ _ => return 0
    let m : Machine := { pool := .ofList [], store := Store.empty.set 0 "x" Int32.minValue }
    let a : Formula := .var "x" .start
    let b : Formula := .signed .neg (.literal 1 .start) .start
    (-1 : Int32) ≠ 0 ∧ ∃ quotient remainder,
      eval ctx enter (.binary .div a.node b.node .start) m = .ok quotient m ∧
      eval ctx enter (.binary .mod a.node b.node .start) m = .ok remainder m ∧
      IsDivision Int32.minValue (-1) quotient remainder := by
  intro ctx enter m a b
  obtain ⟨x, y, hx, hy, -, -, hdivision⟩ := (arithmetic_wraps_exactly ctx enter m).2 a b .start
  have ha : eval ctx enter a.node m = .ok Int32.minValue m := rfl
  have hb : eval ctx enter b.node m = .ok (-1) m := rfl
  have hne : (-1 : Int32) ≠ 0 := by decide
  cases ha.symm.trans hx
  cases hb.symm.trans hy
  exact ⟨hne, hdivision hne⟩

end Stepwise
