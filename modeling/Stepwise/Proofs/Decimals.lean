import Stepwise.Proofs.ExpressionReading

/-!
# Decimals

Integers are written in decimal in two places: as indices in the keys of a store, and at the head of a
raw input. What is written there can be read again. So different integers are never written alike, and
a raw input can be written for any integers.

## Main results

* `Text.natural?_toDigits`, `Text.int32?_decimal`: decimals are read as the integers they were written for.
* `Text.decimal_injective`: different integers have different decimals.
-/

namespace Stepwise.Text

/-! ## Section 1: Digits -/

theorem isDigit_of_mem_toDigits {n : Nat} {c : Char} (h : c ∈ Nat.toDigits 10 n) : isDigit c = true :=
  Nat.isDigit_of_mem_toDigits (by decide) (by decide) h

/-- The digits of a number are read as the number. -/
theorem digits?_toDigits (n : Nat) : digits? (Nat.toDigits 10 n) = some n := by
  have hdigits : (!(Nat.toDigits 10 n).isEmpty && (Nat.toDigits 10 n).all isDigit) = true := by
    rw [Bool.and_eq_true, List.all_eq_true]
    refine ⟨?_, fun c hc => isDigit_of_mem_toDigits hc⟩
    simp [Nat.toDigits_ne_nil]
  rw [digits?, if_pos hdigits, Expression.digitsValue_eq_ofDigitChars, Nat.ofDigitChars_ten_toDigits]

/-- The digits of a number do not begin with a sign. -/
theorem toDigits_ne_sign {n : Nat} {sign : Char} {ds : List Char} (hsign : isDigit sign = false) :
    Nat.toDigits 10 n ≠ sign :: ds := by
  intro h
  have hdigit : isDigit sign = true := isDigit_of_mem_toDigits (n := n) (by simp [h])
  rw [hsign] at hdigit
  cases hdigit

theorem natural?_toDigits {bound n : Nat} (h : n < bound) :
    natural? bound (Nat.toDigits 10 n) = some n := by
  rw [natural?]
  · rw [digits?_toDigits, Option.bind_some, if_pos h]
  · exact fun ds => toDigits_ne_sign (by decide)

/-! ## Section 2: Integers -/

theorem toList_decimal_of_nonneg {value : Int32} (h : 0 ≤ value.toInt) :
    (decimal value).toList = Nat.toDigits 10 value.toInt.toNat := by
  rw [decimal, Int.toString_eq_repr, Int.repr_eq_if, if_pos h, Nat.toList_repr]

theorem toList_decimal_of_neg {value : Int32} (h : value.toInt < 0) :
    (decimal value).toList = '-' :: Nat.toDigits 10 (-value.toInt).toNat := by
  rw [decimal, Int.toString_eq_repr, Int.repr_eq_if, if_neg (Int.not_le.mpr h), String.toList_append,
    Nat.toList_repr]
  rfl

theorem narrow?_toInt (value : Int32) : narrow? value.toInt = some value := by
  have hle := value.le_toInt
  have hlt := value.toInt_lt
  rw [narrow?, if_pos (by omega), Int32.ofInt_toInt]

/-- The decimal of an integer is read as the integer. -/
theorem int32?_decimal (value : Int32) : int32? (decimal value).toList = some value := by
  rcases Int.lt_or_le value.toInt 0 with hneg | hnonneg
  · have hvalue : -((-value.toInt).toNat : Int) = value.toInt := by omega
    rw [toList_decimal_of_neg hneg]
    show (digits? (Nat.toDigits 10 (-value.toInt).toNat)).bind (fun n => narrow? (-n)) = some value
    rw [digits?_toDigits, Option.bind_some, hvalue, narrow?_toInt]
  · have hvalue : (value.toInt.toNat : Int) = value.toInt := Int.toNat_of_nonneg hnonneg
    rw [toList_decimal_of_nonneg hnonneg, int32?]
    · rw [digits?_toDigits, Option.bind_some, hvalue, narrow?_toInt]
    · exact fun ds => toDigits_ne_sign (by decide)
    · exact fun ds => toDigits_ne_sign (by decide)

/-- Different integers have different decimals. -/
theorem decimal_injective : Function.Injective decimal := by
  intro value value' h
  have hread : int32? (decimal value).toList = some value' := by rw [h, int32?_decimal]
  rw [int32?_decimal] at hread
  exact Option.some.inj hread

/-- A decimal has nothing in it but digits and a sign. -/
theorem isDigit_or_eq_of_mem_decimal {value : Int32} {c : Char} (h : c ∈ (decimal value).toList) :
    isDigit c = true ∨ c = '-' := by
  rcases Int.lt_or_le value.toInt 0 with hneg | hnonneg
  · rw [toList_decimal_of_neg hneg] at h
    rcases List.mem_cons.mp h with hsign | hdigit
    · exact .inr hsign
    · exact .inl (isDigit_of_mem_toDigits hdigit)
  · rw [toList_decimal_of_nonneg hnonneg] at h
    exact .inl (isDigit_of_mem_toDigits h)

end Stepwise.Text
