import Mathlib.Tactic.Ring
import DocScript.Numeral.Shortest

/-!
# The decimal of a number reads back

A quotient is rounded alike however it is expanded, so zeros at the end of a coefficient may be
moved into the exponent. A number that the format has is rounded to itself. The decimal that is
chosen for a number is one of its candidates that read back, of which the exact one is the last.
-/

namespace DocScript.Numeral

namespace Binary64

theorem roundDiv_mul_left {k : Nat} (positive : 0 < k) (num den : Nat) :
    roundDiv (k * num) (k * den) = roundDiv num den := by
  have above : 2 * (k * (num % den)) > k * den ↔ 2 * (num % den) > den := by
    rw [Nat.mul_left_comm]
    exact Nat.mul_lt_mul_left positive
  have tie : 2 * (k * (num % den)) = k * den ↔ 2 * (num % den) = den := by
    rw [Nat.mul_left_comm]
    exact Nat.mul_right_inj positive.ne'
  simp only [roundDiv, Nat.mul_div_mul_left _ _ positive, Nat.mul_mod_mul_left, above, tie,
    Bool.or_eq_true, Bool.and_eq_true, beq_iff_eq, decide_eq_true_eq]

theorem roundDiv_exact {den : Nat} (positive : 0 < den) (q : Nat) : roundDiv (q * den) den = q := by
  simp [roundDiv, Nat.mul_div_cancel _ positive, Nat.mul_mod_left, positive.ne]

/-- Rounding depends only on the quotient. -/
theorem ofRatio_mul_left {k : Nat} (positive : 0 < k) (negative : Bool) (num den : Nat) :
    ofRatio negative (k * num) (k * den) = ofRatio negative num den := by
  simp only [ofRatio, Nat.mul_assoc k, Nat.mul_div_mul_left _ _ positive,
    roundDiv_mul_left positive]

theorem ofDecimal_zero (negative : Bool) (exponent : Int) :
    ofDecimal negative 0 exponent = zero negative := by
  simp [ofDecimal]

theorem length_toDigits_mul_ten {c : Nat} (positive : 0 < c) :
    (Nat.toDigits 10 (10 * c)).length = (Nat.toDigits 10 c).length + 1 := by
  have split := Nat.toDigits_append_toDigits (b := 10) (d := 0) (by decide) positive (by decide)
  rw [Nat.add_zero] at split
  rw [← split, List.length_append]
  rfl

/-- The number nearest to `± c * 10 ^ exponent`, whatever its magnitude. -/
def ofPower (negative : Bool) (c : Nat) (exponent : Int) : Binary64 :=
  if 0 ≤ exponent then ofRatio negative (c * Nat.pow 10 exponent.toNat) 1
  else ofRatio negative c (Nat.pow 10 (-exponent).toNat)

theorem ofPower_mul_ten (negative : Bool) (c : Nat) (exponent : Int) :
    ofPower negative (10 * c) (exponent - 1) = ofPower negative c exponent := by
  have power {a b : Int} (next : b.toNat = a.toNat + 1) :
      Nat.pow 10 b.toNat = 10 * Nat.pow 10 a.toNat := by
    rw [next]
    exact Nat.pow_succ'
  unfold ofPower
  by_cases above : 0 < exponent
  · rw [if_pos (by omega), if_pos above.le, power (show exponent.toNat = (exponent - 1).toNat + 1 by
      omega), Nat.mul_left_comm, Nat.mul_assoc]
  · have below : (-(exponent - 1)).toNat = (-exponent).toNat + 1 := by omega
    rw [if_neg (by omega), power below, ofRatio_mul_left (by decide)]
    split
    · next level =>
      obtain rfl : exponent = 0 := by omega
      rw [show Nat.pow 10 (-(0 : Int)).toNat = 1 from rfl, show Nat.pow 10 (0 : Int).toNat = 1 from rfl,
        Nat.mul_one]
    · rfl

/-- A zero at the end of the coefficient may be moved into the exponent. -/
theorem ofDecimal_mul_ten (negative : Bool) (c : Nat) (exponent : Int) :
    ofDecimal negative (10 * c) (exponent - 1) = ofDecimal negative c exponent := by
  rcases Nat.eq_zero_or_pos c with rfl | positive
  · rw [Nat.mul_zero, ofDecimal_zero, ofDecimal_zero]
  · have leading : ((Nat.toDigits 10 (10 * c)).length : Int) + (exponent - 1) =
        (Nat.toDigits 10 c).length + exponent := by
      rw [length_toDigits_mul_ten positive]
      push_cast
      ring
    have apart : (10 * c == 0) = (c == 0) := by
      rw [Bool.eq_iff_iff, beq_iff_eq, beq_iff_eq]
      omega
    change (if _ then _ else if _ then _ else ofPower negative (10 * c) (exponent - 1)) =
      if _ then _ else if _ then _ else ofPower negative c exponent
    rw [leading, apart, ofPower_mul_ten]

theorem ofDecimal_mul_pow (negative : Bool) (c k : Nat) (exponent : Int) :
    ofDecimal negative (10 ^ k * c) (exponent - k) = ofDecimal negative c exponent := by
  induction k with
  | zero => simp
  | succ k ih =>
    rw [← ih, ← ofDecimal_mul_ten negative (10 ^ k * c), Nat.pow_succ', Nat.mul_assoc]
    congr 1
    push_cast
    ring

end Binary64

namespace Finite64

open Binary64

variable (x : Finite64)

/-- The scale of a number is what its magnitude has beyond 53 bits. -/
theorem log2_sub_scale : Nat.log2 (x.significand * Nat.pow 2 x.scale) - 52 = x.scale := by
  have bound := x.significand_lt
  rcases x.normal with flat | full
  · rw [flat]
    rcases Nat.eq_zero_or_pos x.significand with zero | positive
    · rw [zero]
      rfl
    · have bits := (Nat.log2_lt positive.ne').mpr bound
      change Nat.log2 (x.significand * 1) - 52 = 0
      rw [Nat.mul_one]
      omega
  · simp only [Nat.pow_eq] at bound full ⊢
    have positive : 0 < 2 ^ x.scale := Nat.two_pow_pos _
    have bits : Nat.log2 (x.significand * 2 ^ x.scale) = 52 + x.scale := by
      refine (Nat.log2_eq_iff (Nat.mul_ne_zero (by omega) positive.ne')).mpr ⟨?_, ?_⟩
      · rw [Nat.pow_add]
        exact Nat.mul_le_mul_right _ full
      · rw [show 52 + x.scale + 1 = 53 + x.scale by omega, Nat.pow_add]
        exact Nat.mul_lt_mul_of_pos_right bound positive
    omega

/-- A quotient that is exactly a number is rounded to it. -/
theorem ofRatio_exact {num den : Nat} (positive : 0 < den)
    (scaled : num * Nat.pow 2 1074 = x.significand * Nat.pow 2 x.scale * den) :
    ofRatio x.negative num den = .finite x := by
  have twos : 0 < Nat.pow 2 x.scale := Nat.pow_pos (by decide)
  have significand : roundDiv (x.significand * Nat.pow 2 x.scale * den) (den * Nat.pow 2 x.scale) =
      x.significand := by
    rw [Nat.mul_assoc, Nat.mul_comm (Nat.pow 2 x.scale)]
    exact roundDiv_exact (Nat.mul_pos positive twos) _
  unfold ofRatio
  dsimp only
  rw [scaled, Nat.mul_div_cancel _ positive, x.log2_sub_scale, significand,
    if_neg (by simpa using x.significand_lt.ne), ofParts,
    dif_pos ⟨x.significand_lt, x.normal, x.scale_le⟩]

theorem length_scaledMagnitude (apart : x.significand ≠ 0) :
    750 < (Nat.toDigits 10 x.scaledMagnitude).length ∧
      (Nat.toDigits 10 x.scaledMagnitude).length ≤ 1384 := by
  have fives : Nat.pow 5 1074 ≤ x.scaledMagnitude :=
    Nat.le_mul_of_pos_left _ (Nat.mul_pos (Nat.pos_of_ne_zero apart) (Nat.pow_pos (by decide)))
  have low : 10 ^ 750 ≤ Nat.pow 5 1074 := by decide +kernel
  -- The largest scale is named, since no numeral of that size is to be looked at.
  obtain ⟨top, largest, high⟩ : ∃ top, 2045 = top ∧
      Nat.pow 2 53 * Nat.pow 2 top * Nat.pow 5 1074 < 10 ^ 1384 := ⟨_, rfl, by decide +kernel⟩
  have most : Nat.pow 2 x.scale ≤ Nat.pow 2 top :=
    Nat.pow_le_pow_right (by decide) (x.scale_le.trans_eq largest)
  have below : x.scaledMagnitude ≤ Nat.pow 2 53 * Nat.pow 2 top * Nat.pow 5 1074 :=
    Nat.mul_le_mul_right _ (Nat.mul_le_mul x.significand_lt.le most)
  have many {k n : Nat} (positive : 0 < k) (enough : 10 ^ k ≤ n) :
      k < (Nat.toDigits 10 n).length := by
    rw [← Nat.not_le, Nat.length_toDigits_le_iff (by decide) positive]
    exact Nat.not_lt.mpr enough
  have few {k n : Nat} (positive : 0 < k) (short : n < 10 ^ k) : (Nat.toDigits 10 n).length ≤ k :=
    (Nat.length_toDigits_le_iff (by decide) positive).mpr short
  exact ⟨many (by decide) (low.trans fives), few (by decide) (below.trans_lt high)⟩

theorem ofDecimal_exact : ofDecimal x.negative x.scaledMagnitude (-1074) = .finite x := by
  by_cases zero : x.significand = 0
  · have flat : x.scale = 0 := by
      rcases x.normal with flat | full
      · exact flat
      · rw [zero] at full
        exact absurd full (by decide)
    have nothing : x.scaledMagnitude = 0 := by
      unfold scaledMagnitude
      generalize Nat.pow 5 1074 = fives
      rw [zero, Nat.zero_mul, Nat.zero_mul]
    rw [nothing, ofDecimal_zero]
    obtain ⟨negative, significand, scale, _, _, _⟩ := x
    subst zero flat
    rfl
  · obtain ⟨low, high⟩ := x.length_scaledMagnitude zero
    have apart : ¬ x.scaledMagnitude = 0 := by
      intro nothing
      rw [nothing] at low
      exact absurd low (by decide)
    have inside : ¬ (x.scaledMagnitude == 0 || decide
        (((Nat.toDigits 10 x.scaledMagnitude).length : Int) + -1074 < -330)) = true := by
      simp only [Bool.or_eq_true, beq_iff_eq, apart, decide_eq_true_eq, false_or]
      omega
    have tens (k : Nat) : 0 < Nat.pow 10 k := Nat.pow_pos (by decide)
    have power : Nat.pow 5 1074 * Nat.pow 2 1074 = Nat.pow 10 (-(-1074 : Int)).toNat := by
      decide +kernel
    unfold ofDecimal
    dsimp only
    rw [if_neg inside, if_neg (by omega), if_neg (by decide)]
    refine x.ofRatio_exact (tens _) ?_
    rw [scaledMagnitude, Nat.mul_assoc, power]

/-- A zero at the end of the coefficient may be moved into the exponent. -/
theorem readsBack_dropZeros (fuel : Nat) {s : Scientific} (h : x.readsBack s = true) :
    x.readsBack (s.dropZeros fuel) = true := by
  induction fuel generalizing s with
  | zero => exact h
  | succ fuel ih =>
    rw [Scientific.dropZeros]
    split
    · next zeros =>
      simp only [Bool.and_eq_true, beq_iff_eq, bne_iff_ne] at zeros
      refine ih ?_
      rw [readsBack, ← ofDecimal_mul_ten, Nat.mul_div_cancel' (Nat.dvd_of_mod_eq_zero zeros.1),
        Int.add_sub_cancel]
      exact h
    · exact h

theorem readsBack_normalize {s : Scientific} (h : x.readsBack s = true) :
    x.readsBack s.normalize = true := by
  unfold Scientific.normalize
  split
  · next zero =>
    rw [readsBack, eq_of_beq zero, ofDecimal_zero] at h
    rwa [readsBack, ofDecimal_zero]
  · exact x.readsBack_dropZeros _ h

/-- The decimal that is chosen for a number reads back as the number. -/
theorem ofDecimal_shortest :
    ofDecimal x.negative x.shortest.coefficient x.shortest.exponent = .finite x := by
  have exact : x.readsBack x.exactDecimal = true := beq_iff_eq.mpr x.ofDecimal_exact
  have chosen : x.readsBack ((x.candidates.find? x.readsBack).getD x.exactDecimal) = true := by
    cases found : x.candidates.find? x.readsBack with
    | none => exact exact
    | some s => exact List.find?_some found
  exact eq_of_beq (x.readsBack_normalize chosen)

end Finite64

namespace Scientific

theorem dropZeros_coefficient (fuel : Nat) {s : Scientific} (apart : s.coefficient ≠ 0) :
    (s.dropZeros fuel).coefficient ≠ 0 := by
  induction fuel generalizing s with
  | zero => exact apart
  | succ fuel ih =>
    rw [dropZeros]
    split
    · next zeros =>
      simp only [Bool.and_eq_true, beq_iff_eq] at zeros
      refine ih ?_
      change s.coefficient / 10 ≠ 0
      omega
    · exact apart

/-- The exponent of zero is zero. -/
theorem normalize_exponent {s : Scientific} (zero : s.normalize.coefficient = 0) :
    s.normalize.exponent = 0 := by
  revert zero
  unfold normalize
  split
  · exact fun _ => rfl
  · next apart => exact fun zero => (dropZeros_coefficient _ (by simpa using apart) zero).elim

end Scientific

end DocScript.Numeral
