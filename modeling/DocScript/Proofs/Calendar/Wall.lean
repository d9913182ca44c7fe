import DocScript.Calendar.Moment
import DocScript.Proofs.Calendar.Days

/-!
# Wall clocks go through all microseconds

What a calendar and a clock on one wall show is followed by what they show a microsecond later: a
full second, minute, hour or day starts the next one. The number of microseconds since the start
of the year 1 grows by one from each reading to the next, each number up to the end of the year
9999 is that of one reading, and the later of two readings, field by field, has the greater number.
-/

namespace DocScript.Calendar

/-! ### Clocks -/

namespace Clock

variable {hour minute second micro : Nat} {c c' : Clock}

theorem ofParts?_eq_some : ofParts? hour minute second micro = some c ↔
    c.hour = hour ∧ c.minute = minute ∧ c.second = second ∧ c.micro = micro := by
  unfold ofParts?
  constructor
  · intro made
    split at made
    · cases made
      exact ⟨rfl, rfl, rfl, rfl⟩
    · cases made
  · rintro ⟨rfl, rfl, rfl, rfl⟩
    rw [dif_pos ⟨c.hour_lt, c.minute_lt, c.second_lt, c.micro_lt⟩]

theorem ofParts?_eq_none : ofParts? hour minute second micro = none ↔
    ¬ (hour < 24 ∧ minute < 60 ∧ second < 60 ∧ micro < 1000000) := by
  unfold ofParts?
  split
  · exact iff_of_false nofun (not_not_intro ‹_›)
  · exact iff_of_true rfl ‹_›

def midnight : Clock := ⟨0, 0, 0, 0, by decide, by decide, by decide, by decide⟩

theorem micros_midnight : midnight.micros = 0 := rfl

/-- A microsecond later, if it still is the same day. -/
def next? (c : Clock) : Option Clock :=
  (ofParts? c.hour c.minute c.second (c.micro + 1)).or <|
    (ofParts? c.hour c.minute (c.second + 1) 0).or <|
      (ofParts? c.hour (c.minute + 1) 0 0).or (ofParts? (c.hour + 1) 0 0 0)

def fields (c : Clock) : List Nat := [c.hour, c.minute, c.second, c.micro]

theorem fields_inj (same : c.fields = c'.fields) : c = c' := by
  cases c
  cases c'
  simpa [fields] using same

theorem micros_lt (c : Clock) : c.micros < microsPerDay := by
  have := c.hour_lt
  have := c.minute_lt
  have := c.second_lt
  have := c.micro_lt
  simp only [micros, microsPerDay]
  omega

/-- The next reading counts one microsecond more; there is none at the end of the day. -/
theorem next?_cases (c : Clock) : (∃ c', c.next? = some c' ∧ c'.micros = c.micros + 1) ∨
    c.next? = none ∧ c.micros + 1 = microsPerDay := by
  have := c.hour_lt
  have := c.minute_lt
  have := c.second_lt
  have := c.micro_lt
  cases next : c.next? with
  | none =>
    simp only [next?, Option.or_eq_none_iff, ofParts?_eq_none] at next
    refine Or.inr ⟨rfl, ?_⟩
    simp only [micros, microsPerDay]
    omega
  | some c' =>
    simp only [next?, Option.or_eq_some_iff, ofParts?_eq_none, ofParts?_eq_some] at next
    refine Or.inl ⟨c', rfl, ?_⟩
    simp only [micros]
    omega

theorem fields_lt_iff : c.fields < c'.fields ↔ c.hour < c'.hour ∨
    c.hour = c'.hour ∧ (c.minute < c'.minute ∨ c.minute = c'.minute ∧
      (c.second < c'.second ∨ c.second = c'.second ∧ c.micro < c'.micro)) := by
  simp [fields, List.cons_lt_cons_iff]

theorem micros_lt_of_fields (earlier : c.fields < c'.fields) : c.micros < c'.micros := by
  have := c.minute_lt
  have := c.second_lt
  have := c.micro_lt
  have order := fields_lt_iff.mp earlier
  simp only [micros]
  omega

end Clock

/-! ### Readings of date and clock -/

/-- A date and the time that a clock shows. -/
structure Wall where
  date : Date
  clock : Clock
  deriving DecidableEq

namespace Wall

variable {u v w : Wall}

def start : Wall := ⟨.start, .midnight⟩

/-- A microsecond later, unless that is in the year 10000. -/
def next? (w : Wall) : Option Wall :=
  match w.clock.next? with
  | some c => some ⟨w.date, c⟩
  | none => w.date.next?.map (⟨·, .midnight⟩)

/-- Some microseconds later. -/
def later : Nat → Wall → Option Wall
  | 0, w => some w
  | k + 1, w => w.next?.bind (later k)

/-- The second reading is some microseconds after the first, or before it if they are negative. -/
def After (u : Wall) : Int → Wall → Prop
  | .ofNat k, v => u.later k = some v
  | .negSucc k, v => v.later (k + 1) = some u

/-- The fields from the year to the microsecond. -/
def fields (w : Wall) : List Nat := w.date.fields ++ w.clock.fields

instance : LT Wall := ⟨fun u v => u.fields < v.fields⟩

instance : LE Wall := ⟨fun u v => u.fields ≤ v.fields⟩

/-- The microseconds since the start of the year 1. -/
def micros (w : Wall) : Nat := (w.date.ordinal - 1) * microsPerDay + w.clock.micros

/-- The microseconds that the years 1 to 9999 have. -/
def totalMicros : Nat := Moment.totalDays * microsPerDay

theorem micros_start : start.micros = 0 := rfl

theorem micros_lt (w : Wall) : w.micros < totalMicros := by
  have days : (w.date.ordinal - 1) + 1 ≤ Moment.totalDays := by
    have := w.date.ordinal_pos
    have : w.date.ordinal ≤ Moment.totalDays := w.date.ordinal_le
    omega
  have full := Nat.mul_le_mul_right microsPerDay days
  have := w.clock.micros_lt
  rw [Nat.succ_mul] at full
  rw [micros, totalMicros]
  omega

theorem next?_cases (w : Wall) : (∃ v, w.next? = some v ∧ v.micros = w.micros + 1) ∨
    w.next? = none ∧ w.micros + 1 = totalMicros := by
  unfold next?
  rcases w.clock.next?_cases with ⟨c, next, counts⟩ | ⟨last, full⟩
  · rw [next]
    exact Or.inl ⟨⟨w.date, c⟩, rfl, by rw [micros, micros, counts, Nat.add_assoc]⟩
  · rw [last]
    have pos := w.date.ordinal_pos
    cases next : w.date.next? with
    | some d =>
      have counts : d.ordinal - 1 = (w.date.ordinal - 1) + 1 := by
        have := Date.ordinal_next next
        omega
      refine Or.inl ⟨⟨d, .midnight⟩, rfl, ?_⟩
      rw [micros, micros, counts, Nat.add_assoc, full, Nat.succ_mul, Clock.micros_midnight,
        Nat.add_zero]
    | none =>
      have ends : w.date.ordinal = Moment.totalDays := Date.next?_eq_none_iff.mp next
      have whole : Moment.totalDays = (w.date.ordinal - 1) + 1 := by omega
      refine Or.inr ⟨rfl, ?_⟩
      rw [micros, Nat.add_assoc, full, totalMicros, whole, Nat.succ_mul]

theorem exists_micros {n : Nat} (inside : n < totalMicros) : ∃ w : Wall, w.micros = n := by
  induction n with
  | zero => exact ⟨start, micros_start⟩
  | succ n ih =>
    obtain ⟨w, rfl⟩ := ih (Nat.lt_of_succ_lt inside)
    rcases w.next?_cases with ⟨v, _, counts⟩ | ⟨_, full⟩
    · exact ⟨v, counts⟩
    · omega

/-! ### Earlier and later readings -/

theorem fields_inj (same : u.fields = v.fields) : u = v := by
  have parts := List.append_inj same rfl
  cases u
  cases v
  exact congrArg₂ mk (Date.fields_inj parts.1) (Clock.fields_inj parts.2)

theorem lt_iff : u < v ↔
    u.date.fields < v.date.fields ∨ u.date = v.date ∧ u.clock.fields < v.clock.fields := by
  have dates : u.date = v.date ↔ u.date.fields = v.date.fields :=
    ⟨congrArg Date.fields, Date.fields_inj⟩
  change u.fields < v.fields ↔ _
  rw [dates]
  simp only [fields, Date.fields, List.cons_append, List.nil_append, List.cons_lt_cons_iff,
    List.cons.injEq, List.not_lt_nil, and_true, and_false, or_false]
  tauto

theorem micros_lt_of_lt (earlier : u < v) : u.micros < v.micros := by
  rcases lt_iff.mp earlier with date | ⟨same, clock⟩
  · have days : (u.date.ordinal - 1) + 1 ≤ v.date.ordinal - 1 := by
      have := Date.ordinal_lt date
      have := u.date.ordinal_pos
      omega
    have full := Nat.mul_le_mul_right microsPerDay days
    have := u.clock.micros_lt
    rw [Nat.succ_mul] at full
    rw [micros, micros]
    omega
  · rw [micros, micros, same]
    exact Nat.add_lt_add_left (Clock.micros_lt_of_fields clock) _

theorem micros_lt_iff : u.micros < v.micros ↔ u < v := by
  refine ⟨fun less => ?_, micros_lt_of_lt⟩
  rcases lt_trichotomy u.fields v.fields with earlier | same | later
  · exact earlier
  · rw [fields_inj same] at less
    exact (Nat.lt_irrefl _ less).elim
  · exact (Nat.lt_asymm less (micros_lt_of_lt later)).elim

theorem micros_le_iff : u.micros ≤ v.micros ↔ u ≤ v := by
  have order : ¬ v.fields < u.fields ↔ u.fields ≤ v.fields := not_lt
  rw [← Nat.not_lt, micros_lt_iff]
  exact order

theorem micros_inj : u.micros = v.micros ↔ u = v := by
  refine ⟨fun same => fields_inj (le_antisymm ?_ ?_), congrArg micros⟩
  · exact micros_le_iff.mp same.le
  · exact micros_le_iff.mp same.ge

theorem later_eq_some_iff {k : Nat} : u.later k = some v ↔ v.micros = u.micros + k := by
  induction k generalizing u with
  | zero => rw [later, Option.some.injEq, Nat.add_zero, micros_inj, eq_comm]
  | succ k ih =>
    rw [later]
    rcases u.next?_cases with ⟨w, next, counts⟩ | ⟨last, full⟩
    · rw [next, Option.bind_some, ih, counts, Nat.add_assoc, Nat.add_comm 1 k]
    · have := v.micros_lt
      rw [last]
      exact iff_of_false nofun (by omega)

theorem after_iff {k : Int} : u.After k v ↔ (v.micros : Int) = u.micros + k := by
  cases k with
  | ofNat k =>
    rw [After, later_eq_some_iff]
    exact Int.ofNat_inj.symm
  | negSucc k =>
    rw [After, later_eq_some_iff]
    omega

end Wall

end DocScript.Calendar
