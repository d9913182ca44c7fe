import Mathlib.Data.List.TakeDrop
import DocScript.Base64

/-!
# Encoded bytes are decoded

The text of some bytes is a digit for each six bits and what fills the last group. Its digits spell
the bytes again, and there is no more padding than the last group lacks.
-/

namespace DocScript.Base64

/-- The values of the digits for some bytes. -/
def sextets : List UInt8 → List Nat
  | [] => []
  | [x] => [x.toNat / 4, x.toNat % 4 * 16]
  | [x, y] => [x.toNat / 4, x.toNat % 4 * 16 + y.toNat / 16, y.toNat % 16 * 4]
  | x :: y :: z :: rest =>
    x.toNat / 4 :: (x.toNat % 4 * 16 + y.toNat / 16) :: (y.toNat % 16 * 4 + z.toNat / 64)
      :: z.toNat % 64 :: sextets rest

/-- The number of digits that the last group lacks. -/
def lacking (n : Nat) : Nat := (4 - n % 4) % 4

theorem encodeChars_eq (a : Alphabet) (bytes : List UInt8) : a.encodeChars bytes =
    (sextets bytes).map a.digit ++ List.replicate (lacking (sextets bytes).length) pad := by
  fun_induction sextets bytes with
  | case1 | case2 | case3 => rfl
  | case4 x y z rest ih =>
    have same : lacking ((sextets rest).length + 1 + 1 + 1 + 1) = lacking (sextets rest).length := by
      unfold lacking
      omega
    simp only [List.length_cons, same, List.map_cons, List.cons_append, ← ih]
    rfl

theorem sextets_lt {bytes : List UInt8} : ∀ n ∈ sextets bytes, n < 64 := by
  fun_induction sextets bytes with
  | case1 => exact nofun
  | case2 x =>
    have := x.toNat_lt
    simp only [List.forall_mem_cons]
    refine ⟨?_, ?_, nofun⟩ <;> omega
  | case3 x y =>
    have := x.toNat_lt
    have := y.toNat_lt
    simp only [List.forall_mem_cons]
    refine ⟨?_, ?_, ?_, nofun⟩ <;> omega
  | case4 x y z rest ih =>
    have := x.toNat_lt
    have := y.toNat_lt
    have := z.toNat_lt
    simp only [List.forall_mem_cons]
    refine ⟨?_, ?_, ?_, ?_, ih⟩ <;> omega

theorem ofNat_eq {x : UInt8} {n : Nat} (h : n = x.toNat) : UInt8.ofNat n = x := by
  rw [h, UInt8.ofNat_toNat]

theorem ofSextets?_sextets (bytes : List UInt8) : ofSextets? (sextets bytes) = some bytes := by
  fun_induction sextets bytes with
  | case1 => rfl
  | case2 x =>
    rw [ofSextets?, if_pos (by omega), ofNat_eq (x := x) (by omega)]
  | case3 x y =>
    have := y.toNat_lt
    rw [ofSextets?, if_pos (by omega), ofNat_eq (x := x) (by omega), ofNat_eq (x := y) (by omega)]
  | case4 x y z rest ih =>
    have := y.toNat_lt
    have := z.toNat_lt
    rw [ofSextets?, ih, ofNat_eq (x := x) (by omega), ofNat_eq (x := y) (by omega),
      ofNat_eq (x := z) (by omega)]
    rfl

/-- The digits of an alphabet stand for their values, and none is the padding. -/
def Alphabet.Regular (a : Alphabet) : Prop :=
  ∀ n < 64, a.value? (a.digit n) = some n ∧ a.digit n ≠ pad

theorem regular_urlSafe : urlSafe.Regular := by
  unfold Alphabet.Regular
  decide

theorem mapM_value? {a : Alphabet} (regular : a.Regular) {ns : List Nat} (small : ∀ n ∈ ns, n < 64) :
    (ns.map a.digit).mapM a.value? = some ns := by
  induction ns with
  | nil => rfl
  | cons n ns ih =>
    obtain ⟨first, others⟩ := List.forall_mem_cons.mp small
    rw [List.map_cons, List.mapM_cons, (regular n first).1, ih others]
    rfl

theorem Alphabet.Regular.full {a : Alphabet} (regular : a.Regular) {values : List Nat}
    (small : ∀ n ∈ values, n < 64) : ∀ c ∈ values.map a.digit, c ≠ pad := by
  rw [List.forall_mem_map]
  exact fun n member => (regular n (small n member)).2

/-- The digits of a text end where the padding begins. -/
theorem span_padded {digits : List Char} (full : ∀ c ∈ digits, c ≠ pad) (padding : Nat) :
    (digits ++ List.replicate padding pad).span (· != pad) =
      (digits, List.replicate padding pad) := by
  have all : ∀ c ∈ digits, (c != pad) = true := fun c member => bne_iff_ne.mpr (full c member)
  have none : (List.replicate padding pad).takeWhile (· != pad) = [] ∧
      (List.replicate padding pad).dropWhile (· != pad) = List.replicate padding pad := by
    cases padding <;> exact ⟨rfl, rfl⟩
  rw [List.span_eq_takeWhile_dropWhile, List.takeWhile_append_of_pos all,
    List.dropWhile_append_of_pos all, none.1, none.2, List.append_nil]

theorem Alphabet.decode?_encode {a : Alphabet} (regular : a.Regular) (bytes : List UInt8) :
    a.decode? (a.encode bytes) = some bytes := by
  have fills : (List.replicate (lacking (sextets bytes).length) pad).all (· == pad) = true ∧
      (List.replicate (lacking (sextets bytes).length) pad).length ≤
        (4 - ((sextets bytes).map a.digit).length % 4) % 4 := by
    simp [lacking]
  rw [decode?, encode, String.toList_ofList, encodeChars_eq, span_padded (regular.full sextets_lt)]
  simp only [fills, decide_true, Bool.and_self, if_true, mapM_value? regular sextets_lt,
    Option.bind_some, ofSextets?_sextets]

/-- The bytes of a text in the alphabet that is safe in addresses. -/
theorem decode?_encode (bytes : List UInt8) : decode? (urlSafe.encode bytes) = some bytes := by
  rw [decode?, urlSafe.decode?_encode regular_urlSafe]
  rfl

end DocScript.Base64
