import DocScript.Proofs.Calendar.Wall

/-!
# Ticks stand for instants

A moment with an offset is counted by the clock in universal time, the reading from which the clock
of its place is the offset away; there is none if that lies outside of the years 1 to 9999. Ticks
count the microseconds up to that reading, or up to the moment's own reading if it has no offset.
So they keep the order of instants, whatever the offsets are, and give the reading back.
-/

namespace DocScript.Calendar

namespace Moment

variable {m : Moment} {u : Wall} {n : Int}

/-- What the calendar and the clock of the place show. -/
def wall (m : Moment) : Wall := ⟨m.date, m.clock⟩

/-- The reading in universal time: the clock of the place is the offset ahead of it. -/
def InUtc (m : Moment) (u : Wall) : Prop := ∃ o, m.offset = some o ∧ u.After o.micros m.wall

/-- The reading that is counted. -/
def Counted (m : Moment) (u : Wall) : Prop := m.offset = none ∧ u = m.wall ∨ m.InUtc u

theorem inUtc_iff : m.InUtc u ↔ m.offset.isSome ∧ (u.micros : Int) = m.utcMicros := by
  unfold InUtc utcMicros
  cases m.offset with
  | none => simp
  | some o =>
    simp only [Option.some.injEq, exists_eq_left', Wall.after_iff, Option.isSome_some, true_and]
    change (m.wall.micros : Int) = u.micros + o.micros ↔ (u.micros : Int) = m.wall.micros - o.micros
    omega

theorem counted_iff : m.Counted u ↔ (u.micros : Int) = m.utcMicros := by
  unfold Counted
  rw [inUtc_iff]
  cases offset : m.offset with
  | none =>
    have own : m.utcMicros = m.wall.micros := by rw [utcMicros, offset]; rfl
    rw [own, Int.ofNat_inj, Wall.micros_inj]
    simp
  | some o => simp

theorem Counted.unique {v : Wall} (hu : m.Counted u) (hv : m.Counted v) : u = v := by
  rw [counted_iff] at hu hv
  exact Wall.micros_inj.mp (Int.ofNat_inj.mp (hu.trans hv.symm))

theorem InUtc.counted (h : m.InUtc u) : m.Counted u := Or.inr h

theorem counted_of_isSome (known : m.offset.isSome) : m.Counted u ↔ m.InUtc u := by
  rw [counted_iff, inUtc_iff, and_iff_right known]

theorem counted_of_none (unknown : m.offset = none) : m.Counted m.wall := Or.inl ⟨unknown, rfl⟩

/-- Ticks are ten for each microsecond from the start of the year 1 to the reading. -/
theorem ticks?_eq_some_iff : m.ticks? = some n ↔ ∃ u, m.Counted u ∧ n = 10 * u.micros := by
  simp only [counted_iff, ticks?]
  constructor
  · intro ticks
    split at ticks
    · next inside =>
      obtain ⟨u, same⟩ := Wall.exists_micros (n := m.utcMicros.toNat) (by
        simp only [Wall.totalMicros]
        omega)
      refine ⟨u, by omega, ?_⟩
      have := Option.some.inj ticks
      omega
    · cases ticks
  · rintro ⟨u, same, rfl⟩
    have inside := u.micros_lt
    rw [if_pos (by simp only [Wall.totalMicros] at inside; omega), Option.some.injEq]
    omega

theorem ticks?_eq_none_iff : m.ticks? = none ↔ ∀ u, ¬ m.Counted u := by
  rw [Option.eq_none_iff_forall_ne_some]
  constructor
  · exact fun none u counted => none _ (ticks?_eq_some_iff.mpr ⟨u, counted, rfl⟩)
  · intro none n ticks
    obtain ⟨u, counted, _⟩ := ticks?_eq_some_iff.mp ticks
    exact none u counted

theorem ticks?_of_counted (h : m.Counted u) : m.ticks? = some (10 * (u.micros : Int)) :=
  ticks?_eq_some_iff.mpr ⟨u, h, rfl⟩

/-- The last tick that is counted begins the last microsecond of the year 9999. -/
theorem ticks_bounds (h : m.ticks? = some n) : 10 ∣ n ∧ 0 ≤ n ∧ n ≤ 3155378975999999990 := by
  obtain ⟨u, _, rfl⟩ := ticks?_eq_some_iff.mp h
  have inside : u.micros < 315537897600000000 := u.micros_lt
  refine ⟨Int.dvd_mul_right 10 _, ?_, ?_⟩ <;> omega

theorem zone_eq_iff {a b : Moment} : a.zone = b.zone ↔ a.offset.isSome = b.offset.isSome := by
  unfold zone
  cases a.offset.isSome <;> cases b.offset.isSome <;> simp

/-- Ticks are missing if and only if the offset takes a moment out of the years 1 to 9999. They are
multiples of ten from zero on. Moments with offsets have their ticks in the order of their readings
in universal time, and those without in the order of their own readings. The ticks and the zone
tell the reading. -/
theorem ticks_encode_instants (a b : Moment) :
    (a.ticks? = none ↔ a.offset.isSome ∧ ∀ u, ¬ a.InUtc u) ∧
    (∀ n, a.ticks? = some n → 10 ∣ n ∧ 0 ≤ n ∧ n ≤ 3155378975999999990) ∧
    (∀ m n u v, a.ticks? = some m → b.ticks? = some n → a.InUtc u → b.InUtc v →
      (m ≤ n ↔ u ≤ v) ∧ (m = n ↔ u = v)) ∧
    (∀ m n, a.ticks? = some m → b.ticks? = some n → a.offset = none → b.offset = none →
      (m ≤ n ↔ a.wall ≤ b.wall)) ∧
    (∀ n, a.ticks? = some n → b.ticks? = some n → a.zone = b.zone →
      a.offset = none ∧ b.offset = none ∧ a.wall = b.wall ∨
      ∃ u, (∀ v, a.InUtc v ↔ v = u) ∧ ∀ v, b.InUtc v ↔ v = u) := by
  refine ⟨?_, fun n => ticks_bounds, ?_, ?_, ?_⟩
  · rw [ticks?_eq_none_iff]
    cases offset : a.offset with
    | none => exact iff_of_false (fun none => none _ (counted_of_none offset)) (by simp)
    | some o =>
      have known : a.offset.isSome := by rw [offset]; rfl
      simp only [counted_of_isSome known, Option.isSome_some, true_and]
  · intro m n u v ha hb hu hv
    rw [ticks?_of_counted hu.counted, Option.some.injEq] at ha
    rw [ticks?_of_counted hv.counted, Option.some.injEq] at hb
    rw [← Wall.micros_le_iff, ← Wall.micros_inj]
    omega
  · intro m n ha hb unknown unknown'
    rw [ticks?_of_counted (counted_of_none unknown), Option.some.injEq] at ha
    rw [ticks?_of_counted (counted_of_none unknown'), Option.some.injEq] at hb
    rw [← Wall.micros_le_iff]
    omega
  · intro n ha hb zones
    obtain ⟨u, hu, rfl⟩ := ticks?_eq_some_iff.mp ha
    obtain ⟨v, hv, same⟩ := ticks?_eq_some_iff.mp hb
    obtain rfl : u = v := Wall.micros_inj.mp (by omega)
    rw [zone_eq_iff] at zones
    cases known : a.offset.isSome with
    | true =>
      rw [known] at zones
      refine Or.inr ⟨u, fun v => ?_, fun v => ?_⟩
      · rw [← counted_of_isSome known]
        exact ⟨fun other => other.unique hu, fun same => same ▸ hu⟩
      · rw [← counted_of_isSome zones.symm]
        exact ⟨fun other => other.unique hv, fun same => same ▸ hv⟩
    | false =>
      rw [known] at zones
      have unknown := Option.isSome_eq_false_iff.mp known
      have unknown' := Option.isSome_eq_false_iff.mp zones.symm
      rw [Option.isNone_iff_eq_none] at unknown unknown'
      refine Or.inl ⟨unknown, unknown', ?_⟩
      exact ((counted_of_none unknown).unique hu).trans ((counted_of_none unknown').unique hv).symm

/-- Midnight at the start of the year 1 an hour east has no reading in universal time. -/
example : (⟨.start, .midnight, some ⟨3600000000, by decide, by decide⟩⟩ : Moment).ticks? = none := by
  decide

end Moment

end DocScript.Calendar
