import DocScript.Json.Printer
import DocScript.Json.Token
import DocScript.Proofs.Numeral.Rounding

/-!
# Numerals are read back

Every layout of a numeral has digits, perhaps a point with more digits, and perhaps an exponent.
`number?` joins the digits and counts those behind the point, so that it finds the coefficient and
the exponent that the numeral was made of, whatever its layout.
-/

namespace DocScript.Json

open Numeral

/-- What follows a numeral does not go on with it. -/
def Closes (rest : List Char) : Prop :=
  ∀ c ∈ rest.head?, c.isDigit = false ∧ c ≠ '.' ∧ c ≠ 'e' ∧ c ≠ 'E'

/-- All characters are digits. -/
def Digits (cs : List Char) : Prop := ∀ c ∈ cs, c.isDigit = true

theorem Digits.append {cs ds : List Char} (h : Digits cs) (h' : Digits ds) : Digits (cs ++ ds) :=
  fun c member => (List.mem_append.mp member).elim (h c) (h' c)

theorem digits_toDigits (n : Nat) : Digits (Nat.toDigits 10 n) :=
  fun _ => Nat.isDigit_of_mem_toDigits (by decide) (by decide)

theorem digits_zeros (n : Nat) : Digits (List.replicate n '0') := by
  intro c member
  rw [List.eq_of_mem_replicate member]
  rfl

theorem Digits.take {cs : List Char} (h : Digits cs) (n : Nat) : Digits (cs.take n) :=
  fun c member => h c (List.mem_of_mem_take member)

theorem Digits.drop {cs : List Char} (h : Digits cs) (n : Nat) : Digits (cs.drop n) :=
  fun c member => h c (List.mem_of_mem_drop member)

theorem ofDigits_digitValues (ds : List Char) :
    ofDigits (digitValues ds) = Nat.ofDigitChars 10 ds 0 := by
  rw [Nat.ofDigitChars_eq_foldl, ofDigits, digitValues, List.foldl_map]
  rfl

theorem digitRun_append {ds rest : List Char} (digits : Digits ds)
    (stops : ∀ c ∈ rest.head?, c.isDigit = false) : digitRun (ds ++ rest) = (ds, rest) := by
  have run : rest.takeWhile Char.isDigit = [] ∧ rest.dropWhile Char.isDigit = rest := by
    cases rest with
    | nil => exact ⟨rfl, rfl⟩
    | cons c rest => simp [stops c rfl]
  rw [digitRun, List.takeWhile_append_of_pos digits, List.dropWhile_append_of_pos digits, run.1,
    run.2, List.append_nil]

theorem exponent?_closes {rest : List Char} (closes : Closes rest) :
    exponent? rest = some (none, rest) := by
  cases rest with
  | nil => rfl
  | cons c rest =>
    obtain ⟨_, _, small, capital⟩ := closes c rfl
    simp [exponent?, small, capital]

/-- The sign of an exponent. -/
def powerSign (negative : Bool) : Char := if negative then '-' else '+'

theorem exponent?_power {ds rest : List Char} (negative : Bool) (digits : Digits ds)
    (given : ds ≠ []) (closes : Closes rest) :
    exponent? ('e' :: powerSign negative :: (ds ++ rest)) =
      some (some (signed negative (Nat.ofDigitChars 10 ds 0)), rest) := by
  have run := digitRun_append digits fun c member => (closes c member).1
  have sign : splitSign (powerSign negative :: (ds ++ rest)) = (negative, ds ++ rest) := by
    cases negative <;> rfl
  simp [exponent?, sign, run, given, ofDigits_digitValues]

/-- Digits behind a point, if there are any. -/
def pointed (fraction : List Char) : List Char :=
  if fraction.isEmpty then [] else '.' :: fraction

theorem fraction?_pointed {fraction rest : List Char} (digits : Digits fraction)
    (stops : ∀ c ∈ rest.head?, c.isDigit = false ∧ c ≠ '.') :
    fraction? (pointed fraction ++ rest) = some (digitValues fraction, rest) := by
  have run := digitRun_append digits fun c member => (stops c member).1
  cases fraction with
  | nil =>
    cases rest with
    | nil => rfl
    | cons c rest =>
      have point := (stops c rfl).2
      unfold fraction? pointed
      simp only [List.isEmpty_nil, if_true, List.nil_append]
      split
      · next same => exact (point (List.cons.inj same).1).elim
      · rfl
  | cons d fraction =>
    rw [List.cons_append] at run
    simp [pointed, fraction?, run]

/-- The digits before the point do not start with a zero, unless that is the only one. -/
def Leads (whole : List Char) : Prop := whole ≠ [] ∧ (whole.length = 1 ∨ whole.head? ≠ some '0')

theorem head?_toDigits {n : Nat} (positive : 0 < n) : (Nat.toDigits 10 n).head? ≠ some '0' := by
  induction n using Nat.strongRecOn with
  | ind n ih =>
    rw [Nat.toDigits_eq_if (by decide)]
    split
    · intro zero
      have := Nat.digitChar_eq_zero.mp (Option.some.inj zero)
      omega
    · rw [List.head?_append, Option.or_of_isSome (List.isSome_head?.mpr Nat.toDigits_ne_nil)]
      exact ih (n / 10) (by omega) (by omega)

theorem leads_toDigits (n : Nat) : Leads (Nat.toDigits 10 n) := by
  refine ⟨Nat.toDigits_ne_nil, ?_⟩
  rcases Nat.eq_zero_or_pos n with rfl | positive
  · exact Or.inl rfl
  · exact Or.inr (head?_toDigits positive)

theorem Leads.accepted {whole : List Char} (leads : Leads whole) :
    (whole.isEmpty || (decide (whole.length > 1) && whole.head? == some '0')) = false := by
  obtain ⟨given, single | other⟩ := leads
  · simp [given, single]
  · simp [given, other]

theorem number?_int {whole rest : List Char} (negative : Bool) (digits : Digits whole)
    (leads : Leads whole) (short : whole.length ≤ maxDigits) (closes : Closes rest) :
    number? negative (whole ++ rest) =
      some (int (signed negative (Nat.ofDigitChars 10 whole 0)), rest) := by
  have run := digitRun_append digits fun c member => (closes c member).1
  have nothing : Digits [] := nofun
  have fraction : fraction? rest = some ([], rest) :=
    fraction?_pointed nothing fun c member => ⟨(closes c member).1, (closes c member).2.1⟩
  unfold number?
  rw [run]
  simp [leads.accepted, fraction, exponent?_closes closes, short, ofDigits_digitValues]

/-- A numeral with a point or an exponent is read as its digits and their place. -/
theorem number?_float {whole fraction tail rest : List Char} {power : Option Int} (negative : Bool)
    (digits : Digits whole) (leads : Leads whole) (more : Digits fraction)
    (stops : ∀ c ∈ tail.head?, c.isDigit = false ∧ c ≠ '.')
    (ends : exponent? tail = some (power, rest)) (float : fraction ≠ [] ∨ power ≠ none) :
    number? negative (whole ++ (pointed fraction ++ tail)) =
      some (.float (.ofDecimal negative (Nat.ofDigitChars 10 (whole ++ fraction) 0)
        (power.getD 0 - fraction.length)), rest) := by
  have point : ∀ c ∈ (pointed fraction ++ tail).head?, c.isDigit = false := by
    unfold pointed
    split
    · exact fun c member => (stops c member).1
    · intro c member
      obtain rfl := Option.some.inj member
      rfl
  have run := digitRun_append digits point
  have isFloat : fraction = [] → ¬ power = none := fun empty =>
    float.resolve_left fun given => given empty
  have joined : digitValues whole ++ digitValues fraction = digitValues (whole ++ fraction) :=
    List.map_append.symm
  unfold number?
  rw [run]
  simp only [leads.accepted, fraction?_pointed more stops, ends, joined, ofDigits_digitValues,
    Bool.false_eq_true, if_false, Bool.and_eq_true, List.isEmpty_iff, Option.isNone_iff_eq_none,
    Option.pure_def, Option.bind_eq_bind, Option.bind_some]
  simp only [digitValues, List.map_eq_nil_iff, List.length_map]
  rw [if_neg fun both => isFloat both.1 both.2]

theorem Leads.zeros {n : Nat} {k : Nat} (zero : n = 0 → k = 0) :
    Leads (Nat.toDigits 10 n ++ List.replicate k '0') := by
  rcases Nat.eq_zero_or_pos n with none | positive
  · rw [zero none, List.replicate_zero, List.append_nil]
    exact leads_toDigits n
  · have first : (Nat.toDigits 10 n ++ List.replicate k '0').head? = (Nat.toDigits 10 n).head? := by
      rw [List.head?_append, Option.or_of_isSome (List.isSome_head?.mpr Nat.toDigits_ne_nil)]
    refine ⟨by simp [Nat.toDigits_ne_nil], Or.inr ?_⟩
    rw [first]
    exact head?_toDigits positive

theorem Leads.take {ds : List Char} (h : Leads ds) {n : Nat} (positive : 0 < n) :
    Leads (ds.take n) := by
  obtain ⟨given, single | other⟩ := h
  · rw [List.take_of_length_le (by omega)]
    exact ⟨given, Or.inl single⟩
  · refine ⟨by simp [given, positive.ne'], Or.inr ?_⟩
    rwa [List.head?_take, if_neg positive.ne']

section Layouts

variable {rest : List Char} (negative : Bool) (c : Nat)

theorem value_zeros_append (zeros : Nat) :
    Nat.ofDigitChars 10 (List.replicate zeros '0' ++ Nat.toDigits 10 c) 0 = c := by
  rw [Nat.ofDigitChars_append, Nat.ofDigitChars_replicate_zero, Nat.mul_zero,
    Nat.ofDigitChars_ten_toDigits]

theorem Closes.stops (closes : Closes rest) : ∀ c ∈ rest.head?, c.isDigit = false ∧ c ≠ '.' :=
  fun c member => ⟨(closes c member).1, (closes c member).2.1⟩

/-- Zeros up to the point, and one behind it. -/
theorem number?_whole (zeros : Nat) (zero : c = 0 → zeros = 0) (closes : Closes rest) :
    number? negative (Nat.toDigits 10 c ++ List.replicate zeros '0' ++ '.' :: '0' :: rest) =
      some (.float (.ofDecimal negative c zeros), rest) := by
  have read := number?_float negative ((digits_toDigits c).append (digits_zeros zeros))
    (Leads.zeros zero) (digits_zeros 1) closes.stops (exponent?_closes closes) (Or.inl (by decide))
  have joined : Nat.ofDigitChars 10
      (Nat.toDigits 10 c ++ List.replicate zeros '0' ++ List.replicate 1 '0') 0 =
        10 ^ (zeros + 1) * c := by
    rw [List.append_assoc, List.replicate_append_replicate, Nat.ofDigitChars_append,
      Nat.ofDigitChars_ten_toDigits, Nat.ofDigitChars_replicate_zero]
  have exponent : (none : Option Int).getD 0 - (List.replicate 1 '0').length =
      zeros - (zeros + 1 : Nat) := by
    simp only [Option.getD_none, List.length_replicate]
    omega
  rw [joined, exponent, Binary64.ofDecimal_mul_pow] at read
  exact read

/-- The point stands inside the digits. -/
theorem number?_inside (whole : Nat) (positive : 0 < whole)
    (inside : whole < (Nat.toDigits 10 c).length) (closes : Closes rest) :
    number? negative
        ((Nat.toDigits 10 c).take whole ++ '.' :: ((Nat.toDigits 10 c).drop whole ++ rest)) =
      some (.float (.ofDecimal negative c (whole - (Nat.toDigits 10 c).length)), rest) := by
  have behind : (Nat.toDigits 10 c).drop whole ≠ [] := fun empty =>
    absurd (List.drop_eq_nil_iff.mp empty) (Nat.not_le.mpr inside)
  have read := number?_float negative ((digits_toDigits c).take whole)
    ((leads_toDigits c).take positive) ((digits_toDigits c).drop whole) closes.stops
    (exponent?_closes closes) (Or.inl behind)
  have exponent : (none : Option Int).getD 0 - ((Nat.toDigits 10 c).drop whole).length =
      whole - (Nat.toDigits 10 c).length := by
    simp only [Option.getD_none, List.length_drop]
    omega
  rw [List.take_append_drop, Nat.ofDigitChars_ten_toDigits, exponent] at read
  simpa [pointed, behind] using read

/-- Zeros on both sides of the point. -/
theorem number?_behind (zeros : Nat) (closes : Closes rest) :
    number? negative
        ('0' :: '.' :: (List.replicate zeros '0' ++ Nat.toDigits 10 c ++ rest)) =
      some (.float (.ofDecimal negative c (-(zeros + (Nat.toDigits 10 c).length))), rest) := by
  have lone : Leads ['0'] := ⟨by decide, Or.inl rfl⟩
  have behind : List.replicate zeros '0' ++ Nat.toDigits 10 c ≠ [] := fun empty =>
    Nat.toDigits_ne_nil (List.append_eq_nil_iff.mp empty).2
  have read := number?_float negative (show Digits ['0'] from digits_zeros 1) lone
    ((digits_zeros zeros).append (digits_toDigits c)) closes.stops (exponent?_closes closes)
    (Or.inl behind)
  have joined : Nat.ofDigitChars 10
      (['0'] ++ (List.replicate zeros '0' ++ Nat.toDigits 10 c)) 0 = c :=
    value_zeros_append c zeros
  have exponent : (none : Option Int).getD 0 -
      (List.replicate zeros '0' ++ Nat.toDigits 10 c).length =
        -(zeros + (Nat.toDigits 10 c).length) := by
    simp only [Option.getD_none, List.length_append, List.length_replicate]
    omega
  rw [joined, exponent] at read
  simpa [pointed, Nat.toDigits_ne_nil] using read

/-- The first digit, the others behind the point, and an exponent. -/
theorem number?_power (power : Int) (zeros : Nat) (closes : Closes rest) :
    number? negative ((Nat.toDigits 10 c).take 1 ++ (pointed ((Nat.toDigits 10 c).drop 1) ++
        'e' :: powerSign (decide (power < 0)) ::
          (List.replicate zeros '0' ++ Nat.toDigits 10 power.natAbs ++ rest))) =
      some (.float (.ofDecimal negative c (power + 1 - (Nat.toDigits 10 c).length)), rest) := by
  have given : List.replicate zeros '0' ++ Nat.toDigits 10 power.natAbs ≠ [] := fun empty =>
    Nat.toDigits_ne_nil (List.append_eq_nil_iff.mp empty).2
  have tail := exponent?_power (decide (power < 0))
    ((digits_zeros zeros).append (digits_toDigits power.natAbs)) given closes
  have mark : ∀ c ∈ ('e' :: powerSign (decide (power < 0)) ::
      (List.replicate zeros '0' ++ Nat.toDigits 10 power.natAbs ++ rest)).head?,
      c.isDigit = false ∧ c ≠ '.' := by
    intro c member
    obtain rfl := Option.some.inj member
    decide
  have read := number?_float negative ((digits_toDigits c).take 1)
    ((leads_toDigits c).take (n := 1) (by decide)) ((digits_toDigits c).drop 1) mark tail
    (Or.inr nofun)
  have magnitude : signed (decide (power < 0)) power.natAbs = power := by
    rw [signed]
    simp only [decide_eq_true_eq]
    split <;> omega
  have exponent : (some power).getD 0 - ((Nat.toDigits 10 c).drop 1).length =
      power + 1 - (Nat.toDigits 10 c).length := by
    have size := Nat.length_toDigits_pos (b := 10) (n := c)
    simp only [Option.getD_some, List.length_drop]
    omega
  rw [List.take_append_drop, Nat.ofDigitChars_ten_toDigits, value_zeros_append, magnitude,
    exponent] at read
  exact read

end Layouts

/-- However a decimal is laid out, it is read back. -/
theorem number?_magnitude (style : FloatStyle) {s : Scientific} {rest : List Char}
    (negative : Bool) (zero : s.coefficient = 0 → s.exponent = 0) (closes : Closes rest) :
    number? negative ((style.magnitude s).toList ++ rest) =
      some (.float (.ofDecimal negative s.coefficient s.exponent), rest) := by
  have size := Nat.length_toDigits_pos (b := 10) (n := s.coefficient)
  unfold FloatStyle.magnitude
  dsimp only
  rw [Nat.toList_repr]
  -- Without an exponent, the point stands behind, inside or before the digits.
  split
  · split
    · next whole =>
      have read := number?_whole negative s.coefficient s.exponent.toNat
        (fun none => by rw [zero none, Int.toNat_zero]) closes
      rw [Int.toNat_of_nonneg whole] at read
      rw [← read]
      simp [String.toList_append]
    · split
      · next inside =>
        generalize size' : (s.exponent + (Nat.toDigits 10 s.coefficient).length - 1).toNat + 1 = whole
        have read := number?_inside negative s.coefficient whole (by omega) (by omega) closes
        rw [show (whole : Int) - (Nat.toDigits 10 s.coefficient).length = s.exponent by omega] at read
        rw [← read]
        simp [String.toList_append]
      · next outside =>
        generalize size' : (-(s.exponent + (Nat.toDigits 10 s.coefficient).length - 1) - 1).toNat =
          zeros
        have read := number?_behind negative s.coefficient zeros closes
        rw [show -((zeros : Int) + (Nat.toDigits 10 s.coefficient).length) = s.exponent by omega]
          at read
        rw [← read]
        simp [String.toList_append]
  · generalize size' : s.exponent + (Nat.toDigits 10 s.coefficient).length - 1 = power
    generalize filled : style.exponentWidth - (Nat.repr power.natAbs).length = zeros
    have read := number?_power negative s.coefficient power zeros closes
    rw [show power + 1 - (Nat.toDigits 10 s.coefficient).length = s.exponent by omega] at read
    have others : (if (Nat.toDigits 10 s.coefficient).length ≤ 1 then ""
        else "." ++ String.ofList ((Nat.toDigits 10 s.coefficient).drop 1)).toList =
          pointed ((Nat.toDigits 10 s.coefficient).drop 1) := by
      have same : ((Nat.toDigits 10 s.coefficient).drop 1).isEmpty = true ↔
          (Nat.toDigits 10 s.coefficient).length ≤ 1 := by
        rw [List.isEmpty_iff, List.drop_eq_nil_iff]
      simp only [pointed, same]
      split
      · rfl
      · simp only [String.toList_append, String.toList_ofList]
        rfl
    have sign : (if power < 0 then "-" else "+").toList = [powerSign (decide (power < 0))] := by
      by_cases below : power < 0 <;> simp [powerSign, below]
    rw [← read]
    simp only [String.toList_append, String.toList_ofList, others, sign, padZeros, filled,
      Nat.toList_repr, List.append_assoc]
    rfl

end DocScript.Json
