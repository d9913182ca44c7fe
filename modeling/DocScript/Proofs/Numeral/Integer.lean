import Mathlib.Algebra.Field.Rat
import Mathlib.Algebra.Order.Field.Rat
import Mathlib.Data.Nat.Digits.Defs
import Mathlib.Data.Rat.Cast.Defs
import Mathlib.Tactic.Positivity
import DocScript.Numeral.Binary64

/-!
# Integers among numbers and texts

A double precision number stands for a rational number. `toInt?` finds the integer that this is,
exactly and at any magnitude, if it is one. The decimal text of an integer is read as the integer,
unless it has more digits than are read.
-/

namespace DocScript.Numeral

variable {n : Int}

/-! ### Numbers -/

theorem signed_mul (negative : Bool) (k m : Nat) :
    signed negative (k * m) = signed negative k * m := by
  cases negative <;> simp [signed]

namespace Finite64

variable {x : Finite64}

/-- The rational number that a number is. -/
def value (x : Finite64) : ℚ := signed x.negative x.significand * 2 ^ ((x.scale : ℤ) - 1074)

theorem value_of_le (whole : 1074 ≤ x.scale) :
    x.value = (signed x.negative (x.significand * 2 ^ (x.scale - 1074)) : ℤ) := by
  have power : (x.scale : ℤ) - 1074 = (x.scale - 1074 : ℕ) := (Int.ofNat_sub whole).symm
  rw [value, power, zpow_natCast, signed_mul]
  push_cast
  rfl

theorem value_eq_iff (split : x.scale ≤ 1074) :
    x.value = n ↔ signed x.negative x.significand = n * 2 ^ (1074 - x.scale) := by
  have power : (x.scale : ℤ) - 1074 = -((1074 - x.scale : ℕ) : ℤ) := by
    rw [Int.ofNat_sub split, neg_sub]
    rfl
  rw [value, power, zpow_neg, zpow_natCast, ← div_eq_mul_inv, div_eq_iff (by positivity)]
  exact_mod_cast Iff.rfl

/-- The integer that is found is the number, and it is found whenever the number is one. -/
theorem toInt?_eq_some_iff : x.toInt? = some n ↔ x.value = n := by
  unfold toInt?
  by_cases whole : 1074 ≤ x.scale
  · rw [if_pos whole, value_of_le whole, Option.some.injEq, Int.cast_inj]
    rfl
  · rw [if_neg whole, value_eq_iff (Nat.le_of_not_le whole)]
    by_cases divides : 2 ^ (1074 - x.scale) ∣ x.significand
    · obtain ⟨q, factor⟩ := divides
      have even : (x.significand % Nat.pow 2 (1074 - x.scale) == 0) = true := by
        rw [factor]
        exact beq_iff_eq.mpr (Nat.mul_mod_right _ _)
      have quotient : x.significand / Nat.pow 2 (1074 - x.scale) = q := by
        rw [factor]
        exact Nat.mul_div_cancel_left _ (Nat.two_pow_pos _)
      rw [if_pos even, quotient, Option.some.injEq, factor, Nat.mul_comm, signed_mul]
      have apart : (2 ^ (1074 - x.scale) : ℤ) ≠ 0 := by positivity
      push_cast
      exact (Int.mul_eq_mul_right_iff apart).symm
    · have odd : ¬ (x.significand % Nat.pow 2 (1074 - x.scale) == 0) = true := fun even =>
        divides (Nat.dvd_of_mod_eq_zero (beq_iff_eq.mp even))
      rw [if_neg odd]
      refine iff_of_false nofun fun same => divides ⟨n.natAbs, ?_⟩
      have magnitude := congrArg Int.natAbs same
      rw [Int.natAbs_mul, Int.natAbs_pow] at magnitude
      rw [Nat.mul_comm]
      cases sign : x.negative <;> simpa [signed, sign] using magnitude

end Finite64

/-! ### Texts -/

theorem decimalValue?_of_isDigit {c : Char} (digit : c.isDigit = true) :
    Text.decimalValue? c = some (c.toNat - '0'.toNat) := by
  have digits : ∀ n < 58, 48 ≤ n →
      Text.decimalZeros.find? (fun start => decide (start ≤ n) && decide (n ≤ start + 9)) =
        some 48 := by decide
  simp only [Char.isDigit, Bool.and_eq_true, decide_eq_true_eq] at digit
  have found := digits c.toNat (Nat.lt_succ_of_le digit.2) digit.1
  rw [Text.decimalValue?, found]
  rfl

/-- ASCII digits are read as their values. -/
theorem digits?_of_isDigit {cs : List Char} (digits : ∀ c ∈ cs, c.isDigit = true) (some : cs ≠ []) :
    digits? cs = Option.some (cs.map fun c => c.toNat - '0'.toNat) := by
  fun_induction digits? cs with
  | case1 => exact (some rfl).elim
  | case2 c => simp [decimalValue?_of_isDigit (digits c List.mem_cons_self)]
  | case3 c rest ih =>
    have line := digits '_' (by simp)
    cases line
  | case4 c rest more _ ih =>
    obtain ⟨first, others⟩ := List.forall_mem_cons.mp digits
    rw [decimalValue?_of_isDigit first, ih others more]
    rfl

theorem toList_intText (n : Int) : (intText n).toList =
    if n < 0 then '-' :: Nat.toDigits 10 n.natAbs else Nat.toDigits 10 n.natAbs := by
  unfold intText
  split
  · rw [String.toList_append, Nat.toList_repr]
    rfl
  · exact Nat.toList_repr

theorem isDigit_toDigits (k : Nat) : ∀ c ∈ Nat.toDigits 10 k, c.isDigit = true :=
  fun _ => Nat.isDigit_of_mem_toDigits (by decide) (by decide)

theorem splitSign_intText (n : Int) :
    splitSign (intText n).toList = (decide (n < 0), Nat.toDigits 10 n.natAbs) := by
  rw [toList_intText]
  by_cases negative : n < 0
  · rw [if_pos negative, decide_eq_true negative]
    rfl
  · rw [if_neg negative, decide_eq_false negative]
    have digits := isDigit_toDigits n.natAbs
    unfold splitSign
    split
    · next start => cases digits '-' (by rw [start]; exact List.mem_cons_self)
    · next start => cases digits '+' (by rw [start]; exact List.mem_cons_self)
    · rfl

/-- The text of an integer is read as the integer, if it is not too long. -/
theorem readInt?_intText (n : Int) : readInt? (intText n).toList =
    if (Nat.toDigits 10 n.natAbs).length ≤ maxDigits then some n else none := by
  have spelled : ofDigits ((Nat.toDigits 10 n.natAbs).map fun c => c.toNat - '0'.toNat) =
      n.natAbs := by
    rw [ofDigits, List.foldl_map, ← Nat.ofDigitChars_eq_foldl, Nat.ofDigitChars_ten_toDigits]
  have sign : signed (decide (n < 0)) n.natAbs = n := by
    by_cases negative : n < 0 <;> simp only [signed, negative, decide_true, decide_false, if_true,
      Bool.false_eq_true, if_false] <;> omega
  rw [readInt?, splitSign_intText]
  simp only [digits?_of_isDigit (isDigit_toDigits _) Nat.toDigits_ne_nil, List.length_map, spelled,
    sign]

end DocScript.Numeral
