import Mathlib.Data.List.TakeWhile
import DocScript.Proofs.Naming.Spelling
import DocScript.Proofs.Numeral.Integer
import DocScript.Value.Coerce

/-!
# Integers of every width

A raw value may stand for an integer as a number, as a text with blanks around it, or as a double
precision number without a fraction. All three are coerced to the same integer if it has a place in
the kind, and to nothing if it has none; what stands for no integer is never coerced to one.
-/

namespace DocScript

open Numeral Text

/-! ### Widths -/

/-- Integers of a number of bits, with or without a sign. -/
structure Width where
  signed : Bool
  bits : Nat
  deriving DecidableEq

def Width.low (w : Width) : Int := if w.signed then -2 ^ (w.bits - 1) else 0

def Width.high (w : Width) : Int := if w.signed then 2 ^ (w.bits - 1) - 1 else 2 ^ w.bits - 1

def Primitive.width? : Primitive → Option Width
  | .byte => some ⟨false, 8⟩
  | .sbyte => some ⟨true, 8⟩
  | .int16 => some ⟨true, 16⟩
  | .uint16 => some ⟨false, 16⟩
  | .int32 => some ⟨true, 32⟩
  | .uint32 => some ⟨false, 32⟩
  | .int64 => some ⟨true, 64⟩
  | .uint64 => some ⟨false, 64⟩
  | _ => none

theorem Primitive.range?_eq (kind : Primitive) :
    kind.range? = kind.width?.map fun w => (w.low, w.high) := by
  cases kind <;> rfl

theorem Primitive.range?_of_width {kind : Primitive} {w : Width} (of : kind.width? = some w) :
    kind.range? = some (w.low, w.high) := by
  rw [kind.range?_eq, of, Option.map_some]

theorem Primitive.range?_small {kind : Primitive} {low high : Int}
    (range : kind.range? = some (low, high)) : -(10 ^ 19) < low ∧ high < 10 ^ 20 := by
  cases kind <;> cases range <;> decide

/-! ### Blanks around a text -/

namespace Text

variable {c : Char} {before cs after : List Char}

theorem trimStart_append (blank : ∀ c ∈ before, isBlank c = true) :
    trimStart (before ++ cs) = trimStart cs :=
  List.dropWhile_append_of_pos blank

theorem trimStart_cons (filled : isBlank c = false) : trimStart (c :: cs) = c :: cs :=
  List.dropWhile_cons_of_neg (Bool.eq_false_iff.mp filled)

theorem trimEnd_append (filled : ∀ c ∈ cs, isBlank c = false)
    (blank : ∀ c ∈ after, isBlank c = true) : trimEnd (cs ++ after) = cs := by
  have kept : trimStart cs.reverse = cs.reverse := by
    cases last : cs.reverse with
    | nil => rfl
    | cons c rest => exact trimStart_cons (filled c (List.mem_reverse.mp (last ▸ List.mem_cons_self)))
  rw [trimEnd, List.reverse_append, trimStart_append fun c member =>
    blank c (List.mem_reverse.mp member), kept, List.reverse_reverse]

theorem trimChars_append (blank : ∀ c ∈ before, isBlank c = true)
    (filled : ∀ c ∈ cs, isBlank c = false) (blank' : ∀ c ∈ after, isBlank c = true) :
    trimChars (before ++ cs ++ after) = cs := by
  rw [trimChars, List.append_assoc, trimStart_append blank]
  cases cs with
  | nil =>
    have gone : trimStart after = [] := List.dropWhile_eq_nil_iff.mpr blank'
    rw [List.nil_append, gone]
    rfl
  | cons c rest =>
    rw [List.cons_append, trimStart_cons (filled c List.mem_cons_self)]
    exact trimEnd_append filled blank'

/-- A text that starts with a character that is not blank still starts with it. -/
theorem trimChars_cons (filled : isBlank c = false) : ∃ rest, trimChars (c :: cs) = c :: rest := by
  have start : (c :: cs).reverse = cs.reverse ++ [c] := List.reverse_cons
  rw [trimChars, trimStart_cons filled, trimEnd, start, trimStart, List.dropWhile_append]
  split
  · have kept : List.dropWhile isBlank [c] = [c] := trimStart_cons filled
    rw [kept]
    exact ⟨[], rfl⟩
  · rw [List.reverse_append]
    exact ⟨_, rfl⟩

end Text

/-! ### Values that stand for an integer -/

namespace Json

/-- A number, the text of it with blanks around, or a double precision number of its value. -/
inductive Means : Json → Int → Prop
  | int (n : Int) : Means (.int n) n
  | text {before after : String} (n : Int) (blank : ∀ c ∈ before.toList, isBlank c = true)
    (blank' : ∀ c ∈ after.toList, isBlank c = true) : Means (.str (before ++ intText n ++ after)) n
  | float {x : Finite64} {n : Int} (exact : x.value = n) : Means (.float (.finite x)) n

/-- What is neither a number without a fraction nor a text. -/
inductive NoInteger : Json → Prop
  | null : NoInteger .null
  | bool (b : Bool) : NoInteger (.bool b)
  | nan : NoInteger (.float .nan)
  | infinite (negative : Bool) : NoInteger (.float (.infinite negative))
  | fraction {x : Finite64} (apart : ∀ n : Int, x.value ≠ n) : NoInteger (.float (.finite x))
  | arr (items : List Json) : NoInteger (.arr items)
  | obj (members : List (String × Json)) : NoInteger (.obj members)

end Json

theorem isBlank_intText (n : Int) : ∀ c ∈ (intText n).toList, isBlank c = false := by
  have digits : ∀ c ∈ Nat.toDigits 10 n.natAbs, isBlank c = false := fun c member =>
    isBlank_of_isDigit (isDigit_toDigits _ c member)
  rw [toList_intText]
  split
  · exact List.forall_mem_cons.mpr ⟨by decide, digits⟩
  · exact digits

/-- A text that starts with neither a sign nor a digit is no integer. -/
theorem readInt?_eq_none {c : Char} {rest : List Char} (minus : c ≠ '-') (plus : c ≠ '+')
    (other : decimalValue? c = none) : readInt? (c :: rest) = none := by
  have sign : splitSign (c :: rest) = (false, c :: rest) := by
    unfold splitSign
    split
    · next start => exact (minus (List.cons.inj start).1).elim
    · next start => exact (plus (List.cons.inj start).1).elim
    · rfl
  have digits : digits? (c :: rest) = none := by
    unfold digits?
    split
    · next start => cases start
    · next start => rw [← (List.cons.inj start).1, other]; rfl
    · next start => rw [← (List.cons.inj start).1, other]; rfl
    · next start => rw [← (List.cons.inj start).1, other]; rfl
  rw [readInt?, sign]
  simp only [digits]

namespace Raw

variable {kind : Primitive} {w : Width} {j : Json} {n : Int}

theorem readInt?_trimmed {c : Char} {rest : List Char}
    (shown : j.display.toList = c :: rest) (filled : isBlank c = false) (minus : c ≠ '-')
    (plus : c ≠ '+') (other : decimalValue? c = none) : readInt? (json j).trimmed = none := by
  obtain ⟨tail, trims⟩ : ∃ tail, trimChars (c :: rest) = c :: tail := trimChars_cons filled
  have trimmed : (json j).trimmed = c :: tail := by
    rw [Raw.trimmed, Raw.display, shown, trims]
  rw [trimmed]
  exact readInt?_eq_none minus plus other

theorem toInt?_means (means : j.Means n) :
    (json j).toInt? = some n ∨
      (json j).toInt? = none ∧ maxDigits < (Nat.toDigits 10 n.natAbs).length := by
  cases means with
  | int => exact Or.inl rfl
  | @text before after _ blank blank' =>
    have trimmed : (json (.str (before ++ intText n ++ after))).trimmed = (intText n).toList := by
      rw [Raw.trimmed, Raw.display, Json.display, String.toList_append, String.toList_append]
      exact trimChars_append blank (isBlank_intText n) blank'
    rw [toInt?.eq_def]
    simp only [trimmed, readInt?_intText]
    split
    · exact Or.inl rfl
    · exact Or.inr ⟨rfl, Nat.lt_of_not_le ‹_›⟩
  | float exact => exact Or.inl (Finite64.toInt?_eq_some_iff.mpr exact)

theorem toInt?_noInteger (other : j.NoInteger) : (json j).toInt? = none := by
  cases other with
  | null =>
    have shown : Json.null.display.toList = 'N' :: "one".toList := rfl
    exact readInt?_trimmed shown (by decide) (by decide) (by decide) (by decide)
  | bool b => rfl
  | nan => rfl
  | infinite negative => rfl
  | fraction apart =>
    exact Option.eq_none_iff_forall_ne_some.mpr fun n found =>
      apart n (Finite64.toInt?_eq_some_iff.mp found)
  | arr items =>
    have shown : (Json.arr items).display.toList = '[' :: (Json.literalItems items ++ "]").toList := by
      simp [Json.display, Json.literal]
    exact readInt?_trimmed shown (by decide) (by decide) (by decide) (by decide)
  | obj members =>
    have shown : (Json.obj members).display.toList =
        '\x7b' :: (Json.literalMembers members ++ "\x7d").toList := by
      simp [Json.display, Json.literal]
    exact readInt?_trimmed shown (by decide) (by decide) (by decide) (by decide)

theorem coerce?_integer (r : Raw) (of : kind.width? = some w) : r.coerce? kind =
    (r.toInt?.filter fun n => w.low ≤ n && n ≤ w.high).map fun n => .literal (.int n) := by
  unfold coerce?
  rw [Primitive.range?_of_width of]

/-- For each kind of integers: a value is coerced to an integer of the kind or to nothing. What
stands for an integer, in any of the three ways, is coerced to it if it has a place in the kind, and
to nothing if it has none; what stands for no integer is coerced to nothing. -/
theorem integers_exact (kind : Primitive) (w : Width) (of : kind.width? = some w) :
    (∀ j : Json, (json j).coerce? kind = none ∨
      ∃ n, w.low ≤ n ∧ n ≤ w.high ∧ (json j).coerce? kind = some (.literal (.int n))) ∧
    (∀ j n, j.Means n → (json j).coerce? kind =
      if w.low ≤ n ∧ n ≤ w.high then some (.literal (.int n)) else none) ∧
    (∀ j, j.NoInteger → (json j).coerce? kind = none) := by
  refine ⟨fun j => ?_, fun j n means => ?_, fun j other => ?_⟩
  · rw [coerce?_integer _ of]
    cases found : (json j).toInt?.filter fun n => w.low ≤ n && n ≤ w.high with
    | none => exact Or.inl rfl
    | some n =>
      have between := (Option.filter_eq_some_iff.mp found).2
      rw [Bool.and_eq_true, decide_eq_true_eq, decide_eq_true_eq] at between
      exact Or.inr ⟨n, between.1, between.2, rfl⟩
  · rw [coerce?_integer _ of]
    rcases toInt?_means means with read | ⟨read, long⟩
    · rw [read]
      by_cases fits : w.low ≤ n ∧ n ≤ w.high <;> simp [Option.filter, fits]
    · -- A text that is too long is that of an integer of more than 64 bits.
      have outside : ¬ (w.low ≤ n ∧ n ≤ w.high) := by
        rintro ⟨low, high⟩
        have bounds := Primitive.range?_small (Primitive.range?_of_width of)
        have short : (Nat.toDigits 10 n.natAbs).length ≤ 20 :=
          Nat.toDigits_length 10 n.natAbs 20 (by decide) (by omega)
        exact absurd (Nat.lt_of_lt_of_le long short) (by decide)
      rw [read, if_neg outside]
      rfl
  · rw [coerce?_integer _ of, toInt?_noInteger other]
    rfl

/-- The number `2 ^ 64`. -/
def wordSize : Finite64 := ⟨false, 4503599627370496, 1086, by decide, by decide, by decide⟩

/-- The largest unsigned integer of 64 bits is read from a text, and the number after it is not. -/
theorem integers_exact_uint64 :
    Primitive.uint64.width? = some ⟨false, 64⟩ ∧
    (json (.str "\t18446744073709551615 ")).coerce? .uint64 =
      some (.literal (.int 18446744073709551615)) ∧
    (json (.float (.finite wordSize))).coerce? .uint64 = none := by
  obtain ⟨_, exact, _⟩ := integers_exact .uint64 ⟨false, 64⟩ rfl
  have text : (Json.str "\t18446744073709551615 ").Means 18446744073709551615 :=
    @Json.Means.text "\t" " " 18446744073709551615 (List.all_eq_true.mp (by decide))
      (List.all_eq_true.mp (by decide))
  have value : wordSize.value = (18446744073709551616 : Int) := by
    rw [Finite64.value_of_le (by decide)]
    rfl
  refine ⟨rfl, ?_, ?_⟩
  · rw [exact _ _ text, if_pos (by decide)]
  · rw [exact _ _ (.float value), if_neg (by decide)]

end Raw

end DocScript
