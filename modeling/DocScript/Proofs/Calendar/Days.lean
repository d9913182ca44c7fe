import Mathlib
import DocScript.Calendar.Date

/-!
# Days are counted one by one

The number of a day is told from closed formulas for the years and months before it. Here the days
are gone through as the calendar does, each month to its end and each year to December. The number
grows by one from each day to the next, up to the last day of the year 9999, and of two dates the
one that is later by year, month and day has the greater number.
-/

namespace DocScript.Calendar

variable {year month : Nat} {d e : Date}

/-! ### Years and months -/

def yearLength (year : Nat) : Nat := if isLeap year then 366 else 365

theorem isLeap_iff : isLeap year = true ↔ 4 ∣ year ∧ (100 ∣ year → 400 ∣ year) := by
  simp only [isLeap, Bool.and_eq_true, Bool.or_eq_true, beq_iff_eq, bne_iff_ne,
    Nat.dvd_iff_mod_eq_zero, imp_iff_not_or]

theorem daysBeforeYear_succ (pos : 1 ≤ year) :
    daysBeforeYear (year + 1) = daysBeforeYear year + yearLength year := by
  obtain ⟨last, rfl⟩ := Nat.exists_eq_add_of_le' pos
  have fourth : 100 ∣ last + 1 → 4 ∣ last + 1 := Nat.dvd_trans (by decide)
  have century : 400 ∣ last + 1 → 100 ∣ last + 1 := Nat.dvd_trans (by decide)
  have fewer : last / 100 ≤ last * 365 + last / 4 := by omega
  -- Each quotient grows at the multiples of its divisor, and only there.
  simp only [daysBeforeYear, yearLength, isLeap_iff, Nat.add_sub_cancel, Nat.succ_div]
  by_cases by4 : 4 ∣ last + 1 <;> by_cases by100 : 100 ∣ last + 1 <;>
    by_cases by400 : 400 ∣ last + 1 <;>
    simp only [by4, by100, by400, if_true, if_false, and_true, true_and, imp_self, imp_false,
      not_true_eq_false, false_imp_iff] at fourth century ⊢ <;> omega

theorem daysBeforeYear_mono : Monotone daysBeforeYear := by
  refine monotone_nat_of_le_succ fun year => ?_
  cases year with
  | zero => exact Nat.zero_le _
  | succ last =>
    rw [daysBeforeYear_succ (Nat.le_add_left 1 last)]
    exact Nat.le_add_right _ _

theorem length_monthLengths (year : Nat) : (monthLengths year).length = 12 := rfl

theorem daysInMonth_pos_iff : 1 ≤ daysInMonth year month ↔ 1 ≤ month ∧ month ≤ 12 := by
  cases month with
  | zero => simp [daysInMonth]
  | succ index =>
    rw [daysInMonth, if_neg (Nat.succ_ne_zero index), Nat.add_sub_cancel]
    by_cases inside : index < (monthLengths year).length
    · have filled : ∀ n ∈ monthLengths year, 1 ≤ n := by
        cases leap : isLeap year <;> simp [monthLengths, leap]
      rw [List.getD_eq_getElem?_getD, List.getElem?_eq_getElem inside, Option.getD_some]
      rw [length_monthLengths] at inside
      exact iff_of_true (filled _ (List.getElem_mem _)) ⟨Nat.le_add_left 1 index, by omega⟩
    · rw [List.getD_eq_getElem?_getD, List.getElem?_eq_none (Nat.le_of_not_lt inside)]
      rw [length_monthLengths] at inside
      exact iff_of_false (by simp) (by omega)

theorem daysBeforeMonth_eq_sum (year month : Nat) :
    daysBeforeMonth year month = ((monthLengths year).take (month - 1)).sum :=
  List.sum_eq_foldl.symm

theorem daysBeforeMonth_succ (pos : 1 ≤ month) :
    daysBeforeMonth year (month + 1) = daysBeforeMonth year month + daysInMonth year month := by
  obtain ⟨index, rfl⟩ := Nat.exists_eq_add_of_le' pos
  rw [daysBeforeMonth_eq_sum, daysBeforeMonth_eq_sum, daysInMonth, if_neg (Nat.succ_ne_zero index),
    Nat.add_sub_cancel, Nat.add_sub_cancel, List.take_add_one, List.sum_append,
    List.getD_eq_getElem?_getD]
  cases (monthLengths year)[index]? <;> rfl

theorem daysBeforeMonth_mono (year : Nat) : Monotone (daysBeforeMonth year) := by
  refine monotone_nat_of_le_succ fun month => ?_
  cases month with
  | zero => exact Nat.le_refl _
  | succ last =>
    rw [daysBeforeMonth_succ (Nat.le_add_left 1 last)]
    exact Nat.le_add_right _ _

theorem daysBeforeMonth_first (year : Nat) : daysBeforeMonth year 1 = 0 := rfl

/-- The months of a year fill it. -/
theorem daysBeforeMonth_end (year : Nat) : daysBeforeMonth year 13 = yearLength year := by
  cases leap : isLeap year <;> simp [daysBeforeMonth, monthLengths, yearLength, leap]

namespace Date

/-! ### One day after the other -/

/-- The day after: in the same month, else the first of the next month, else the first of the next
year. There is none after the year 9999. -/
def next? (d : Date) : Option Date :=
  (ofParts? d.year d.month (d.day + 1)).or <|
    (ofParts? d.year (d.month + 1) 1).or (ofParts? (d.year + 1) 1 1)

/-- The first day of the year 1. -/
def start : Date := ⟨1, 1, 1, by decide, by decide, by decide, by decide, by decide, by decide⟩

def fields (d : Date) : List Nat := [d.year, d.month, d.day]

theorem ofParts?_eq_some {day : Nat} : ofParts? year month day = some d ↔
    d.year = year ∧ d.month = month ∧ d.day = day := by
  unfold ofParts?
  constructor
  · intro made
    split at made
    · cases made
      exact ⟨rfl, rfl, rfl⟩
    · cases made
  · rintro ⟨rfl, rfl, rfl⟩
    rw [dif_pos ⟨d.year_pos, d.year_le, d.month_pos, d.month_le, d.day_pos, d.day_le⟩]

theorem ofParts?_eq_none {day : Nat} : ofParts? year month day = none ↔
    ¬ (1 ≤ year ∧ year ≤ 9999 ∧ 1 ≤ month ∧ month ≤ 12 ∧ 1 ≤ day ∧ day ≤ daysInMonth year month) := by
  unfold ofParts?
  split
  · exact iff_of_false nofun (not_not_intro ‹_›)
  · exact iff_of_true rfl ‹_›

theorem fields_inj (same : d.fields = e.fields) : d = e := by
  cases d
  cases e
  simpa [fields] using same

theorem month_eq (last : ofParts? d.year (d.month + 1) 1 = none) : d.month = 12 := by
  have bounds := ofParts?_eq_none.mp last
  have filled : d.month + 1 ≤ 12 → 1 ≤ daysInMonth d.year (d.month + 1) := fun le =>
    daysInMonth_pos_iff.mpr ⟨Nat.le_add_left 1 _, le⟩
  have := d.year_pos
  have := d.year_le
  have := d.month_le
  omega

theorem year_eq (last : ofParts? (d.year + 1) 1 1 = none) : d.year = 9999 := by
  have bounds := ofParts?_eq_none.mp last
  have filled : 1 ≤ daysInMonth (d.year + 1) 1 := daysInMonth_pos_iff.mpr (by decide)
  have := d.year_le
  omega

theorem ordinal_le_month (d : Date) :
    d.ordinal ≤ daysBeforeYear d.year + daysBeforeMonth d.year (d.month + 1) := by
  have := d.day_le
  rw [daysBeforeMonth_succ d.month_pos, ordinal]
  omega

theorem ordinal_le_year (d : Date) : d.ordinal ≤ daysBeforeYear (d.year + 1) := by
  have months : daysBeforeMonth d.year (d.month + 1) ≤ daysBeforeMonth d.year 13 :=
    daysBeforeMonth_mono d.year (Nat.succ_le_succ d.month_le)
  have inside := d.ordinal_le_month
  rw [daysBeforeMonth_end] at months
  rw [daysBeforeYear_succ d.year_pos]
  omega

theorem ordinal_le (d : Date) : d.ordinal ≤ daysBeforeYear 10000 :=
  Nat.le_trans d.ordinal_le_year (daysBeforeYear_mono (Nat.succ_le_succ d.year_le))

theorem ordinal_pos (d : Date) : 1 ≤ d.ordinal :=
  Nat.le_trans d.day_pos (Nat.le_add_left _ _)

/-- The last day of a month completes it. -/
theorem ordinal_eq_month (last : ofParts? d.year d.month (d.day + 1) = none) :
    d.ordinal = daysBeforeYear d.year + daysBeforeMonth d.year (d.month + 1) := by
  have bounds := ofParts?_eq_none.mp last
  have := d.year_pos
  have := d.year_le
  have := d.month_pos
  have := d.month_le
  have := d.day_le
  rw [daysBeforeMonth_succ d.month_pos, ordinal]
  omega

/-- The last day of December completes the year. -/
theorem ordinal_eq_year (lastDay : ofParts? d.year d.month (d.day + 1) = none)
    (lastMonth : ofParts? d.year (d.month + 1) 1 = none) :
    d.ordinal = daysBeforeYear (d.year + 1) := by
  rw [ordinal_eq_month lastDay, month_eq lastMonth, daysBeforeMonth_end,
    daysBeforeYear_succ d.year_pos]

theorem ordinal_next (next : d.next? = some e) : e.ordinal = d.ordinal + 1 := by
  simp only [next?, Option.or_eq_some_iff] at next
  rcases next with day | ⟨lastDay, month | ⟨lastMonth, year⟩⟩
  · obtain ⟨years, months, days⟩ := ofParts?_eq_some.mp day
    rw [ordinal, ordinal, years, months, days]
    rfl
  · obtain ⟨years, months, days⟩ := ofParts?_eq_some.mp month
    rw [ordinal_eq_month lastDay, ordinal, years, months, days]
  · obtain ⟨years, months, days⟩ := ofParts?_eq_some.mp year
    rw [ordinal_eq_year lastDay lastMonth, ordinal, years, months, days, daysBeforeMonth_first]

theorem next?_eq_none_iff : d.next? = none ↔ d.ordinal = daysBeforeYear 10000 := by
  constructor
  · intro last
    simp only [next?, Option.or_eq_none_iff] at last
    obtain ⟨lastDay, lastMonth, lastYear⟩ := last
    rw [ordinal_eq_year lastDay lastMonth, year_eq lastYear]
  · intro last
    cases next : d.next? with
    | none => rfl
    | some e =>
      have := e.ordinal_le
      have := ordinal_next next
      omega

/-! ### Earlier and later dates -/

theorem fields_lt_iff : d.fields < e.fields ↔ d.year < e.year ∨
    d.year = e.year ∧ (d.month < e.month ∨ d.month = e.month ∧ d.day < e.day) := by
  simp [fields, List.cons_lt_cons_iff]

theorem ordinal_lt (earlier : d.fields < e.fields) : d.ordinal < e.ordinal := by
  rcases fields_lt_iff.mp earlier with year | ⟨year, month | ⟨month, day⟩⟩
  · have years : daysBeforeYear (d.year + 1) ≤ daysBeforeYear e.year := daysBeforeYear_mono year
    have := d.ordinal_le_year
    have := e.day_pos
    rw [ordinal.eq_def e]
    omega
  · have months : daysBeforeMonth e.year (d.month + 1) ≤ daysBeforeMonth e.year e.month :=
      daysBeforeMonth_mono e.year month
    have inside := d.ordinal_le_month
    have := e.day_pos
    rw [year] at inside
    rw [ordinal.eq_def e]
    omega
  · rw [ordinal, ordinal, year, month]
    exact Nat.add_lt_add_left day _

end Date

end DocScript.Calendar
