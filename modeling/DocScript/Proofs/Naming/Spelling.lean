import DocScript.Naming.Pool

/-!
# Numbers of variables are legible

The variables of one type are told apart by the number at the end of their names. The first
character may change its case and even its length, and a blank name keeps its first character;
the number survives all of this.
-/

namespace DocScript

namespace Text

theorem isBlank_of_isDigit {c : Char} (h : c.isDigit = true) : isBlank c = false := by
  have digits : ∀ n < 58, 48 ≤ n → blanks.any (·.contains n) = false := by decide
  simp only [Char.isDigit, Bool.and_eq_true, decide_eq_true_eq] at h
  exact digits c.toNat (Nat.lt_succ_of_le h.2) h.1

theorem mapCase_of_isDigit {shifts : List CaseShift} {specials : List (Nat × List Nat)}
    (digits : ∀ n < 58, 48 ≤ n →
      specials.lookup n = none ∧ shifts.find? (·.run.contains n) = none) {c : Char}
    (h : c.isDigit = true) : mapCase shifts specials c = [c] := by
  simp only [Char.isDigit, Bool.and_eq_true, decide_eq_true_eq] at h
  obtain ⟨special, shift⟩ := digits c.toNat (Nat.lt_succ_of_le h.2) h.1
  simp only [mapCase, special, shift]

theorem lowerChar_of_isDigit {c : Char} (h : c.isDigit = true) : lowerChar c = [c] :=
  mapCase_of_isDigit (by decide +kernel) h

theorem upperChar_of_isDigit {c : Char} (h : c.isDigit = true) : upperChar c = [c] :=
  mapCase_of_isDigit (by decide +kernel) h

theorem lookup_mem {n : Nat} {codes : List Nat} {table : List (Nat × List Nat)}
    (h : table.lookup n = some codes) : (n, codes) ∈ table := by
  induction table with
  | nil => simp at h
  | cons entry rest ih =>
    rw [List.lookup_cons] at h
    split at h
    · next same =>
      obtain rfl := Option.some.inj h
      rw [beq_iff_eq] at same
      subst same
      exact List.mem_cons_self
    · exact List.mem_cons_of_mem _ (ih h)

theorem mapCase_ne_nil {shifts : List CaseShift} {specials : List (Nat × List Nat)}
    (full : ∀ entry ∈ specials, entry.2 ≠ []) (c : Char) : mapCase shifts specials c ≠ [] := by
  unfold mapCase
  split
  · next codes found =>
    have nonempty := full _ (lookup_mem found)
    simpa using nonempty
  · split <;> simp

theorem lowerChar_ne_nil (c : Char) : lowerChar c ≠ [] := mapCase_ne_nil (by decide) c

theorem upperChar_ne_nil (c : Char) : upperChar c ≠ [] := mapCase_ne_nil (by decide) c

theorem upper_eq_empty_iff {s : String} : upper s = "" ↔ s = "" := by
  constructor
  · intro empty
    have chars := congrArg String.toList empty
    rw [upper, String.toList_ofList, String.toList_empty, List.flatMap_eq_nil_iff] at chars
    apply String.toList_inj.mp
    rw [String.toList_empty, List.eq_nil_iff_forall_not_mem]
    exact fun c member => upperChar_ne_nil c (chars c member)
  · rintro rfl
    rfl

theorem toList_camelCase (s : String) :
    (camelCase s).toList = match s.toList with
      | [] => []
      | c :: rest => if (c :: rest).all isBlank then c :: rest else lowerChar c ++ rest := by
  cases chars : s.toList with
  | nil => simp [camelCase, chars]
  | cons c rest =>
    simp only [camelCase, chars]
    by_cases blank : (c :: rest).all isBlank = true
    · simp only [blank, if_true, chars]
    · simp only [blank, Bool.false_eq_true, if_false, String.toList_ofList]

theorem camelCase_eq_empty_iff {s : String} : camelCase s = "" ↔ s = "" := by
  rw [← String.toList_inj, ← String.toList_inj, toList_camelCase, String.toList_empty]
  split
  · next none => exact iff_of_true rfl none
  · next c rest some =>
    rw [some]
    refine iff_of_false ?_ (List.cons_ne_nil c rest)
    split
    · exact List.cons_ne_nil c rest
    · exact fun empty => lowerChar_ne_nil c (List.append_eq_nil_iff.mp empty).1

/-- Only the first character of a text is changed, and digits are not changed at all, so that
digits at the end can be read off. -/
theorem camelCase_append_inj {base x y : String} (hx : ∀ c ∈ x.toList, c.isDigit = true)
    (hy : ∀ c ∈ y.toList, c.isDigit = true) (h : camelCase (base ++ x) = camelCase (base ++ y)) :
    x = y := by
  have digits_all : ∀ {ds : List Char}, (∀ c ∈ ds, c.isDigit = true) → ds.all isBlank = true →
      ds = [] := by
    intro ds digits blank
    cases ds with
    | nil => rfl
    | cons d rest =>
      rw [List.all_cons, isBlank_of_isDigit (digits d List.mem_cons_self)] at blank
      cases blank
  have camel_digits : ∀ {s : String}, (∀ c ∈ s.toList, c.isDigit = true) →
      (camelCase s).toList = s.toList := by
    intro s digits
    rw [toList_camelCase]
    split
    · next empty => exact empty.symm
    · next c rest chars =>
      rw [chars] at digits ⊢
      rw [lowerChar_of_isDigit (digits c List.mem_cons_self)]
      split <;> rfl
  have chars := congrArg String.toList h
  cases start : base.toList with
  | nil =>
    have none : base = "" := String.toList_inj.mp start
    rw [none, String.empty_append, String.empty_append, camel_digits hx, camel_digits hy] at chars
    exact String.toList_inj.mp chars
  | cons c rest =>
    simp only [toList_camelCase, String.toList_append, start, List.cons_append] at chars
    apply String.toList_inj.mp
    have blank_end : ∀ {ds : List Char}, (∀ c ∈ ds, c.isDigit = true) →
        (c :: (rest ++ ds)).all isBlank = true → ds = [] := by
      intro ds digits blank
      rw [← List.cons_append, List.all_append, Bool.and_eq_true] at blank
      exact digits_all digits blank.2
    have longer : ∀ {ds : List Char}, c :: rest = lowerChar c ++ (rest ++ ds) → ds = [] := by
      intro ds same
      have lengths := congrArg List.length same
      have first := List.length_pos_iff.mpr (lowerChar_ne_nil c)
      simp only [List.length_cons, List.length_append] at lengths
      exact List.length_eq_zero_iff.mp (by omega)
    -- A blank text is left alone, and then it has no digits.
    split at chars
    · next blank =>
      have no_x := blank_end hx blank
      split at chars
      · next blank' => rw [no_x, blank_end hy blank']
      · rw [no_x, List.append_nil] at chars
        rw [no_x, longer chars]
    · split at chars
      · next blank' =>
        have no_y := blank_end hy blank'
        rw [no_y, List.append_nil] at chars
        rw [no_y, longer chars.symm]
      · exact List.append_cancel_left (List.append_cancel_left chars)

theorem toList_pascalCase (s : String) :
    (pascalCase s).toList = match s.toList with
      | [] => []
      | c :: rest => upperChar c ++ rest := by
  cases chars : s.toList with
  | nil => simp [pascalCase, chars]
  | cons c rest => simp [pascalCase, chars]

/-- Like `camelCase_append_inj`; here blank texts are no exception. -/
theorem pascalCase_append_inj {base x y : String} (hx : ∀ c ∈ x.toList, c.isDigit = true)
    (hy : ∀ c ∈ y.toList, c.isDigit = true) (h : pascalCase (base ++ x) = pascalCase (base ++ y)) :
    x = y := by
  have pascal_digits {s : String} (digits : ∀ c ∈ s.toList, c.isDigit = true) :
      (pascalCase s).toList = s.toList := by
    rw [toList_pascalCase]
    split
    · next empty => exact empty.symm
    · next c rest chars =>
      rw [chars] at digits ⊢
      rw [upperChar_of_isDigit (digits c List.mem_cons_self)]
      rfl
  have chars := congrArg String.toList h
  cases start : base.toList with
  | nil =>
    have none : base = "" := String.toList_inj.mp start
    rw [none, String.empty_append, String.empty_append, pascal_digits hx, pascal_digits hy] at chars
    exact String.toList_inj.mp chars
  | cons c rest =>
    simp only [toList_pascalCase, String.toList_append, start, List.cons_append] at chars
    exact String.toList_inj.mp (List.append_cancel_left (List.append_cancel_left chars))

end Text

/-- The number at the end of the name of a variable. -/
def attemptText (n : Nat) : String := if n = 0 then "" else Nat.repr n

theorem isDigit_attemptText {n : Nat} : ∀ c ∈ (attemptText n).toList, c.isDigit = true := by
  unfold attemptText
  split
  · simp
  · rw [Nat.toList_repr]
    exact fun c h => Nat.isDigit_of_mem_toDigits (by decide) (by decide) h

theorem repr_inj {m n : Nat} (h : Nat.repr m = Nat.repr n) : m = n := by
  have digits := congrArg (fun s => Nat.ofDigitChars 10 s.toList 0) h
  simpa only [Nat.toList_repr, Nat.ofDigitChars_ten_toDigits] using digits

theorem attemptText_inj {m n : Nat} (h : attemptText m = attemptText n) : m = n := by
  unfold attemptText at h
  split at h <;> split at h
  · omega
  · exact (Nat.repr_ne_empty h.symm).elim
  · exact (Nat.repr_ne_empty h).elim
  · exact repr_inj h

/-- The variables of one type have different names. -/
theorem variableName_inj {ns : Namespaces} {t : TypeId} {m n : Nat}
    (h : variableName ns t m = variableName ns t n) : m = n :=
  attemptText_inj (Text.camelCase_append_inj isDigit_attemptText isDigit_attemptText h)

end DocScript
