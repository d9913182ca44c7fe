import Mathlib
import DocScript.Proofs.Base64

/-!
# What a text denotes

Bytes are eight bits each and digits six, the highest bit first. A text denotes some bytes if the
bits of its digits are those of the bytes and then the zeros that fill the last digit. It is decoded
to just those bytes. Padding does not matter then, and the one text that is padded to whole groups
of four is what the bytes are encoded as.
-/

namespace DocScript.Base64

/-! ### Bits of numbers -/

/-- The lowest bits of a number, the highest of them first. -/
def bits : (width : Nat) → Nat → List Bool
  | 0, _ => []
  | width + 1, n => n.testBit width :: bits width n

variable {width high low m n : Nat}

theorem length_bits (width n : Nat) : (bits width n).length = width := by
  induction width with
  | zero => rfl
  | succ width ih => rw [bits, List.length_cons, ih]

theorem bits_congr (same : ∀ i < width, m.testBit i = n.testBit i) : bits width m = bits width n := by
  induction width with
  | zero => rfl
  | succ width ih =>
    rw [bits, bits, same width (Nat.lt_succ_self _), ih fun i lt => same i (Nat.lt_succ_of_lt lt)]

theorem testBit_of_bits (same : bits width m = bits width n) :
    ∀ i < width, m.testBit i = n.testBit i := by
  induction width with
  | zero => exact fun i lt => (Nat.not_lt_zero i lt).elim
  | succ width ih =>
    obtain ⟨first, others⟩ := List.cons.inj same
    intro i lt
    rcases Nat.lt_succ_iff_lt_or_eq.mp lt with lt | rfl
    · exact ih others i lt
    · exact first

theorem bits_inj (hm : m < 2 ^ width) (hn : n < 2 ^ width) (same : bits width m = bits width n) :
    m = n := by
  apply Nat.eq_of_testBit_eq
  intro i
  by_cases inside : i < width
  · exact testBit_of_bits same i inside
  · have beyond : 2 ^ width ≤ 2 ^ i := Nat.pow_le_pow_right (by decide) (Nat.not_lt.mp inside)
    rw [Nat.testBit_lt_two_pow (Nat.lt_of_lt_of_le hm beyond),
      Nat.testBit_lt_two_pow (Nat.lt_of_lt_of_le hn beyond)]

/-- The bits of one number and then those of another are the bits of both in one number. -/
theorem bits_append (small : n < 2 ^ low) :
    bits high m ++ bits low n = bits (high + low) (m * 2 ^ low + n) := by
  induction high with
  | zero =>
    rw [bits, List.nil_append, Nat.zero_add]
    refine bits_congr fun i lt => ?_
    rw [Nat.mul_comm, Nat.testBit_two_pow_mul_add m small, if_pos lt]
  | succ high ih =>
    rw [bits, List.cons_append, ih, Nat.succ_add, bits, Nat.mul_comm,
      Nat.testBit_two_pow_mul_add m small, if_neg (Nat.not_lt.mpr (Nat.le_add_left _ _)),
      Nat.add_sub_cancel]

theorem length_flatMap_bits {α : Type} (f : α → Nat) (xs : List α) :
    (xs.flatMap fun x => bits width (f x)).length = width * xs.length := by
  induction xs with
  | nil => rfl
  | cons x xs ih =>
    rw [List.flatMap_cons, List.length_append, length_bits, ih, List.length_cons, Nat.mul_succ,
      Nat.add_comm]

theorem flatMap_bits_inj {ms ns : List Nat} (hm : ∀ m ∈ ms, m < 2 ^ width)
    (hn : ∀ n ∈ ns, n < 2 ^ width) (filled : 0 < width)
    (same : ms.flatMap (bits width) = ns.flatMap (bits width)) : ms = ns := by
  have nonempty (n : Nat) (rest : List Bool) : bits width n ++ rest ≠ [] := by
    rw [← List.length_pos_iff, List.length_append, length_bits]
    omega
  induction ms generalizing ns with
  | nil =>
    cases ns with
    | nil => rfl
    | cons n ns => exact (nonempty n _ same.symm).elim
  | cons m ms ih =>
    cases ns with
    | nil => exact (nonempty m _ same).elim
    | cons n ns =>
      obtain ⟨first, others⟩ := List.append_inj same ((length_bits _ _).trans (length_bits _ _).symm)
      rw [List.forall_mem_cons] at hm hn
      rw [bits_inj hm.1 hn.1 first, ih hm.2 hn.2 others]

/-! ### Digits that spell bytes -/

def byteBits (bytes : List UInt8) : List Bool := bytes.flatMap fun x => bits 8 x.toNat

def digitBits (values : List Nat) : List Bool := values.flatMap (bits 6)

/-- The bits of the digits are those of the bytes and then the zeros that fill the last digit. -/
def Spells (values : List Nat) (bytes : List UInt8) : Prop :=
  ∃ fill < 6, digitBits values = byteBits bytes ++ List.replicate fill false

theorem length_byteBits (bytes : List UInt8) : (byteBits bytes).length = 8 * bytes.length :=
  length_flatMap_bits UInt8.toNat bytes

theorem length_digitBits (values : List Nat) : (digitBits values).length = 6 * values.length :=
  length_flatMap_bits id values

/-- Only the digits for some bytes spell them. -/
theorem Spells.unique {bytes : List UInt8} {values others : List Nat}
    (spells : Spells values bytes) (spells' : Spells others bytes)
    (small : ∀ n ∈ values, n < 64) (small' : ∀ n ∈ others, n < 64) : values = others := by
  obtain ⟨fill, less, same⟩ := spells
  obtain ⟨fill', less', same'⟩ := spells'
  -- How many zeros there are is told by the number of bytes alone.
  have length := congrArg List.length same
  have length' := congrArg List.length same'
  rw [List.length_append, List.length_replicate, length_byteBits, length_digitBits] at length length'
  obtain rfl : fill = fill' := by omega
  exact flatMap_bits_inj small small' (by decide) (same.trans same'.symm)

/-- A group of digits and the bytes that they are for have the same bits. -/
theorem bits_group {x y z : Nat} (hy : y < 2 ^ 8) (hz : z < 2 ^ 8) :
    bits 6 (x / 4) ++ (bits 6 (x % 4 * 16 + y / 16) ++
      (bits 6 (y % 16 * 4 + z / 64) ++ bits 6 (z % 64))) =
    bits 8 x ++ (bits 8 y ++ bits 8 z) := by
  rw [bits_append (by omega), bits_append (by omega), bits_append (by omega), bits_append hz,
    bits_append (by omega)]
  refine congrArg (bits 24) ?_
  omega

/-- The endings are groups with zeros for the bytes that are missing, cut to what is needed. -/
theorem spells_sextets (bytes : List UInt8) : Spells (sextets bytes) bytes := by
  fun_induction sextets bytes with
  | case1 => exact ⟨0, by decide, rfl⟩
  | case2 x =>
    have group := bits_group (x := x.toNat) (y := 0) (z := 0) (by decide) (by decide)
    refine ⟨4, by decide, (List.append_left_inj (bits 12 0)).mp ?_⟩
    simpa [digitBits, byteBits, bits] using group
  | case3 x y =>
    have group := bits_group (x := x.toNat) (z := 0) y.toNat_lt (by decide)
    refine ⟨2, by decide, (List.append_left_inj (bits 6 0)).mp ?_⟩
    simpa [digitBits, byteBits, bits] using group
  | case4 x y z rest ih =>
    have group := bits_group (x := x.toNat) y.toNat_lt z.toNat_lt
    obtain ⟨fill, less, same⟩ := ih
    refine ⟨fill, less, ?_⟩
    simp only [digitBits, byteBits, List.flatMap_cons, List.append_assoc] at same ⊢
    rw [same]
    simp only [← List.append_assoc] at group ⊢
    rw [group]

/-- Digits are read only as the bytes that they are for. -/
theorem sextets_of_ofSextets? {values : List Nat} {bytes : List UInt8}
    (small : ∀ n ∈ values, n < 64) (read : ofSextets? values = some bytes) :
    values = sextets bytes := by
  fun_induction ofSextets? values generalizing bytes with
  | case1 =>
    obtain rfl := Option.some.inj read
    rfl
  | case2 | case4 | case6 => cases read
  | case3 a b fills =>
    obtain rfl := Option.some.inj read
    simp only [List.forall_mem_cons] at small
    simp only [sextets, UInt8.toNat_ofNat', List.cons.injEq, and_true]
    omega
  | case5 a b c fills =>
    obtain rfl := Option.some.inj read
    simp only [List.forall_mem_cons] at small
    simp only [sextets, UInt8.toNat_ofNat', List.cons.injEq, and_true]
    omega
  | case7 a b c d rest ih =>
    obtain ⟨others, readRest, made⟩ := Option.bind_eq_some_iff.mp read
    obtain rfl := Option.some.inj made
    simp only [List.forall_mem_cons] at small
    simp only [sextets, UInt8.toNat_ofNat', List.cons.injEq]
    refine ⟨?_, ?_, ?_, ?_, ih small.2.2.2.2 readRest⟩ <;> omega

theorem ofSextets?_eq_some_iff {values : List Nat} {bytes : List UInt8}
    (small : ∀ n ∈ values, n < 64) : ofSextets? values = some bytes ↔ Spells values bytes := by
  constructor
  · intro read
    rw [sextets_of_ofSextets? small read]
    exact spells_sextets bytes
  · intro spells
    rw [spells.unique (spells_sextets bytes) small sextets_lt]
    exact ofSextets?_sextets bytes

/-! ### Texts -/

def alphanumerics : String := "ABCDEFGHIJKLMNOPQRSTUVWXYZabcdefghijklmnopqrstuvwxyz0123456789"

/-- The digits of an alphabet in the order of their values. -/
def Alphabet.table (a : Alphabet) : List Char := alphanumerics.toList ++ [a.digit62, a.digit63]

/-- A text has digits whose bits are those of some bytes, and padding that does not exceed what the
last group lacks. -/
def Alphabet.Denotes (a : Alphabet) (s : String) (bytes : List UInt8) : Prop :=
  ∃ values padding, (∀ n ∈ values, n < 64) ∧ padding ≤ lacking values.length ∧
    s.toList = values.map (a.table.getD · pad) ++ List.replicate padding pad ∧ Spells values bytes

/-- All digits of a text are of one alphabet. -/
def Denotes (s : String) (bytes : List UInt8) : Prop :=
  urlSafe.Denotes s bytes ∨ standard.Denotes s bytes

/-- Two alphabets differ in nothing but their last two digits. -/
theorem Alphabet.getD_table (a : Alphabet) : ∀ n < 64, a.table.getD n pad = a.digit n := by
  have shared : ∀ n < 62, alphanumerics.toList.getD n pad = standard.digit n := by decide
  have length : alphanumerics.toList.length = 62 := by decide
  intro n less
  rcases Nat.lt_or_ge n 62 with first | last
  · have same : a.digit n = standard.digit n := by
      simp only [digit]
      split_ifs <;> rfl
    rw [same, ← shared n first, table, List.getD_append _ _ _ _ (by omega)]
  · rw [table, List.getD_append_right _ _ _ _ (by omega), length]
    obtain rfl | rfl : n = 62 ∨ n = 63 := by omega
    all_goals rfl

theorem Alphabet.map_table (a : Alphabet) {values : List Nat} (small : ∀ n ∈ values, n < 64) :
    values.map (a.table.getD · pad) = values.map a.digit :=
  List.map_congr_left fun n member => a.getD_table n (small n member)

theorem Alphabet.digit_of_value? {a : Alphabet} {c : Char} {n : Nat} (h : a.value? c = some n) :
    n < 64 ∧ a.digit n = c := by
  have code (m : Nat) (same : m = c.toNat) : Char.ofNat m = c := by rw [same, Char.ofNat_toNat]
  unfold value? at h
  dsimp only at h
  split_ifs at h with upper lower number own own'
  all_goals
    obtain rfl := Option.some.inj h
    simp only [digit]
  · rw [if_pos (by omega)]
    exact ⟨by omega, code _ (by omega)⟩
  · rw [if_neg (by omega), if_pos (by omega)]
    exact ⟨by omega, code _ (by omega)⟩
  · rw [if_neg (by omega), if_neg (by omega), if_pos (by omega)]
    exact ⟨by omega, code _ (by omega)⟩
  · exact ⟨by decide, own.symm⟩
  · exact ⟨by decide, own'.symm⟩

theorem regular_standard : standard.Regular := by
  unfold Alphabet.Regular
  decide

/-- The characters that are read as values are their digits. -/
theorem Alphabet.mapM_value?_eq_some_iff {a : Alphabet} (regular : a.Regular) {cs : List Char}
    {values : List Nat} :
    cs.mapM a.value? = some values ↔ (∀ n ∈ values, n < 64) ∧ cs = values.map a.digit := by
  constructor
  · intro read
    induction cs generalizing values with
    | nil =>
      obtain rfl := Option.some.inj read
      exact ⟨nofun, rfl⟩
    | cons c cs ih =>
      rw [List.mapM_cons] at read
      obtain ⟨n, first, read⟩ := Option.bind_eq_some_iff.mp read
      obtain ⟨ns, others, made⟩ := Option.bind_eq_some_iff.mp read
      obtain rfl := Option.some.inj made
      obtain ⟨less, same⟩ := digit_of_value? first
      obtain ⟨small, rfl⟩ := ih others
      exact ⟨List.forall_mem_cons.mpr ⟨less, small⟩, by rw [List.map_cons, same]⟩
  · rintro ⟨small, rfl⟩
    exact mapM_value? regular small

/-- A text is decoded to the bytes that it denotes. -/
theorem Alphabet.decode?_eq_some_iff {a : Alphabet} (regular : a.Regular) {s : String}
    {bytes : List UInt8} : a.decode? s = some bytes ↔ a.Denotes s bytes := by
  constructor
  · intro read
    have whole := List.takeWhile_append_dropWhile (p := (· != pad)) (l := s.toList)
    rw [decode?, List.span_eq_takeWhile_dropWhile] at read
    generalize s.toList.takeWhile (· != pad) = digits at read whole
    generalize s.toList.dropWhile (· != pad) = padding at read whole
    dsimp only at read
    split at read
    · next fits =>
      obtain ⟨values, digits, spelt⟩ := Option.bind_eq_some_iff.mp read
      obtain ⟨small, rfl⟩ := (mapM_value?_eq_some_iff regular).mp digits
      rw [Bool.and_eq_true, decide_eq_true_eq, List.all_eq_true, List.length_map] at fits
      have padded : padding = List.replicate padding.length pad :=
        List.eq_replicate_iff.mpr ⟨rfl, fun c member => beq_iff_eq.mp (fits.1 c member)⟩
      refine ⟨values, padding.length, small, fits.2, ?_, (ofSextets?_eq_some_iff small).mp spelt⟩
      rw [a.map_table small, ← padded, whole]
    · cases read
  · rintro ⟨values, padding, small, fits, chars, spells⟩
    rw [decode?, chars, a.map_table small, span_padded (regular.full small)]
    dsimp only
    rw [if_pos, mapM_value? regular small]
    · exact (ofSextets?_eq_some_iff small).mpr spells
    · simpa [lacking] using fits

theorem map_digit_agree {ms ns : List Nat} (hm : ∀ m ∈ ms, m < 64) (hn : ∀ n ∈ ns, n < 64)
    (same : ms.map urlSafe.digit = ns.map standard.digit) : ms = ns := by
  have agree : ∀ m < 64, (standard.value? (urlSafe.digit m)).all (· == m) = true := by decide
  induction ms generalizing ns with
  | nil => exact (List.map_eq_nil_iff.mp same.symm).symm
  | cons m ms ih =>
    cases ns with
    | nil => cases same
    | cons n ns =>
      obtain ⟨first, others⟩ := List.cons.inj same
      rw [List.forall_mem_cons] at hm hn
      have own := agree m hm.1
      rw [first, (regular_standard n hn.1).1, Option.all_some, beq_iff_eq] at own
      rw [own, ih hm.2 hn.2 others]

/-- A text that is of both alphabets denotes the same in both. -/
theorem denotes_agree {s : String} {bytes others : List UInt8} (read : urlSafe.Denotes s bytes)
    (read' : standard.Denotes s others) : bytes = others := by
  obtain ⟨ms, padding, small, _, chars, spells⟩ := read
  obtain ⟨ns, padding', small', _, chars', spells'⟩ := read'
  rw [Alphabet.map_table _ small] at chars
  rw [Alphabet.map_table _ small'] at chars'
  have parts := congrArg (List.span (· != pad)) (chars.symm.trans chars')
  rw [span_padded (regular_urlSafe.full small), span_padded (regular_standard.full small')] at parts
  obtain rfl := map_digit_agree small small' (Prod.mk.inj parts).1
  rw [← ofSextets?_eq_some_iff small] at spells spells'
  exact Option.some.inj (spells.symm.trans spells')

theorem decode?_eq_some_iff {s : String} {bytes : List UInt8} :
    decode? s = some bytes ↔ Denotes s bytes := by
  have safe {bytes : List UInt8} : urlSafe.decode? s = some bytes ↔ urlSafe.Denotes s bytes :=
    Alphabet.decode?_eq_some_iff regular_urlSafe
  have plain : standard.decode? s = some bytes ↔ standard.Denotes s bytes :=
    Alphabet.decode?_eq_some_iff regular_standard
  rw [Denotes, ← safe, ← plain, decode?]
  cases first : urlSafe.decode? s with
  | none =>
    rw [or_iff_right (Option.some_ne_none bytes).symm]
    rfl
  | some others =>
    constructor
    · exact Or.inl
    · rintro (read | read)
      · exact read
      · exact congrArg some (denotes_agree (safe.mp first) (plain.mp read))

theorem Denotes.denotes_iff {s : String} {bytes others : List UInt8} (denotes : Denotes s bytes) :
    Denotes s others ↔ others = bytes := by
  rw [← decode?_eq_some_iff] at denotes ⊢
  rw [denotes, Option.some.injEq, eq_comm]

/-- The text of some bytes is the one that is padded to whole groups. -/
theorem Alphabet.eq_encode_iff (a : Alphabet) {s : String} {bytes : List UInt8} :
    s = a.encode bytes ↔ a.Denotes s bytes ∧ s.length % 4 = 0 := by
  have whole (n : Nat) : (n + lacking n) % 4 = 0 := by
    unfold lacking
    omega
  constructor
  · rintro rfl
    have chars : (a.encode bytes).toList = (sextets bytes).map a.digit ++
        List.replicate (lacking (sextets bytes).length) pad := by
      rw [encode, String.toList_ofList, encodeChars_eq]
    refine ⟨⟨sextets bytes, _, sextets_lt, Nat.le_refl _, ?_, spells_sextets bytes⟩, ?_⟩
    · rw [chars, a.map_table sextets_lt]
    · rw [← String.length_toList, chars, List.length_append, List.length_map, List.length_replicate,
        whole]
  · rintro ⟨⟨values, padding, small, fits, chars, spells⟩, full⟩
    obtain rfl := spells.unique (spells_sextets bytes) small sextets_lt
    rw [← String.length_toList, chars, List.length_append, List.length_map,
      List.length_replicate] at full
    have exact : padding = lacking (sextets bytes).length := by
      have := whole (sextets bytes).length
      unfold lacking at *
      omega
    rw [← String.toList_inj, chars, exact, a.map_table small, encode, String.toList_ofList,
      encodeChars_eq]

theorem Alphabet.denotes_encode_iff {a : Alphabet} (regular : a.Regular)
    {bytes others : List UInt8} : a.Denotes (a.encode bytes) others ↔ others = bytes := by
  rw [← decode?_eq_some_iff regular, decode?_encode regular, Option.some.injEq, eq_comm]

theorem Alphabet.encode_inj {a : Alphabet} (regular : a.Regular) {bytes others : List UInt8} :
    a.encode others = a.encode bytes ↔ others = bytes := by
  rw [a.eq_encode_iff, denotes_encode_iff regular, eq_comm]
  exact and_iff_left ((a.eq_encode_iff).mp rfl).2

end DocScript.Base64
