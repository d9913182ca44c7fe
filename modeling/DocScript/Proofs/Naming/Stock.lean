import DocScript.Proofs.Naming.Namespaces
import DocScript.Proofs.Naming.Spelling

/-!
# Variables by number

A pool deals with names. Here the variables of a type are numbers, from 0 on, and a pool is shown
to do with names what a stock does with numbers: `Pool.Tracks` is kept by taking and giving back.
-/

namespace DocScript

structure Stock where
  /-- How many were made. -/
  made : Nat
  /-- Those that are free, the latest one first. -/
  free : List Nat

namespace Stock

def empty : Stock := ⟨0, []⟩

/-- Takes a variable. The flag says that it was in use before. -/
def take (unique : Bool) (s : Stock) : (Nat × Bool) × Stock :=
  match unique, s.free with
  | false, n :: rest => ((n, true), ⟨s.made, rest⟩)
  | _, _ => ((s.made, false), ⟨s.made + 1, s.free⟩)

def give (unique : Bool) (n : Nat) (s : Stock) : Stock :=
  if unique then s else ⟨s.made, n :: s.free⟩

def InUse (s : Stock) (n : Nat) : Prop := n < s.made ∧ n ∉ s.free

/-- Each free variable is free once, and was made. In unique mode none is free. -/
structure Sound (unique : Bool) (s : Stock) : Prop where
  nodup : s.free.Nodup
  made : ∀ n ∈ s.free, n < s.made
  unique : unique = true → s.free = []

variable {unique : Bool} {s : Stock} {n m : Nat}

theorem sound_empty (unique : Bool) : empty.Sound unique :=
  ⟨List.nodup_nil, by simp [empty], fun _ => rfl⟩

/-- A taken variable is either free and was made, or is the next one. -/
theorem take_cases (unique : Bool) (s : Stock) :
    (∃ n rest, unique = false ∧ s.free = n :: rest ∧
      s.take unique = ((n, true), ⟨s.made, rest⟩)) ∨
    ((unique = false → s.free = []) ∧
      s.take unique = ((s.made, false), ⟨s.made + 1, s.free⟩)) := by
  obtain ⟨made, free⟩ := s
  cases unique with
  | true => exact Or.inr ⟨nofun, rfl⟩
  | false =>
    cases free with
    | nil => exact Or.inr ⟨fun _ => rfl, rfl⟩
    | cons n rest => exact Or.inl ⟨n, rest, rfl, rfl, rfl⟩

theorem Sound.take (sound : s.Sound unique) : (s.take unique).2.Sound unique := by
  rcases take_cases unique s with ⟨n, rest, reuse, free, taken⟩ | ⟨_, taken⟩
  · rw [taken]
    obtain ⟨nodup, made, _⟩ := sound
    rw [free] at nodup made
    refine ⟨(List.nodup_cons.mp nodup).2, fun k h => made k (List.mem_cons_of_mem _ h), ?_⟩
    intro mode
    rw [reuse] at mode
    cases mode
  · rw [taken]
    exact ⟨sound.nodup, fun k h => Nat.lt_succ_of_lt (sound.made k h), sound.unique⟩

theorem Sound.give (sound : s.Sound unique) (used : s.InUse n) : (s.give unique n).Sound unique := by
  unfold Stock.give
  split
  · exact sound
  · next reuse =>
    refine ⟨List.nodup_cons.mpr ⟨used.2, sound.nodup⟩, ?_, fun mode => (reuse mode).elim⟩
    intro k h
    rcases List.mem_cons.mp h with rfl | h
    · exact used.1
    · exact sound.made k h

/-- The taken variable is in use afterwards, and was not before. -/
theorem Sound.inUse_take (sound : s.Sound unique) :
    (s.take unique).2.InUse (s.take unique).1.1 ∧ ¬ s.InUse (s.take unique).1.1 := by
  rcases take_cases unique s with ⟨n, rest, _, free, taken⟩ | ⟨_, taken⟩
  · rw [taken]
    obtain ⟨nodup, made, _⟩ := sound
    rw [free] at nodup made
    refine ⟨⟨made n List.mem_cons_self, (List.nodup_cons.mp nodup).1⟩, ?_⟩
    rintro ⟨_, absent⟩
    rw [free] at absent
    exact absent List.mem_cons_self
  · rw [taken]
    refine ⟨⟨Nat.lt_succ_self _, fun h => Nat.lt_irrefl _ (sound.made _ h)⟩, ?_⟩
    rintro ⟨before, _⟩
    exact Nat.lt_irrefl _ before

theorem InUse.take (used : s.InUse n) : (s.take unique).2.InUse n := by
  rcases take_cases unique s with ⟨m, rest, _, free, taken⟩ | ⟨_, taken⟩
  · rw [taken]
    refine ⟨used.1, fun h => used.2 ?_⟩
    rw [free]
    exact List.mem_cons_of_mem _ h
  · rw [taken]
    exact ⟨Nat.lt_succ_of_lt used.1, used.2⟩

theorem InUse.give (used : s.InUse n) (other : n ≠ m) : (s.give unique m).InUse n := by
  unfold Stock.give
  split
  · exact used
  · refine ⟨used.1, fun h => ?_⟩
    rcases List.mem_cons.mp h with same | h
    · exact other same
    · exact used.2 h

theorem made_give (unique : Bool) (n : Nat) (s : Stock) : (s.give unique n).made = s.made := by
  unfold give
  split <;> rfl

end Stock

/-- The names of a pool are those of the variables of a stock, and the same ones are free. -/
structure Pool.Tracks (ns : Namespaces) (unique : Bool) (p : Pool) (s : Stock) : Prop where
  sound : s.Sound unique
  counted : unique = true → p.entries = .empty ∧ p.free = [] ∧ p.uniqueCount = s.made
  kept : unique = false →
    p.entries.keys = (List.range s.made).map (variableName ns p.type) ∧
    p.free = s.free.map (variableName ns p.type) ∧
    ∀ n < s.made, p.entries.get? (variableName ns p.type n) = some (decide (n ∈ s.free))

namespace Pool.Tracks

variable {ns ns' : Namespaces} {unique : Bool} {p : Pool} {s : Stock} {n : Nat}

theorem empty (ns : Namespaces) (unique : Bool) (t : TypeId) :
    (Pool.empty t).Tracks ns unique .empty :=
  ⟨Stock.sound_empty unique, fun _ => ⟨rfl, rfl, rfl⟩,
    fun _ => ⟨rfl, rfl, fun _ h => (Nat.not_lt_zero _ h).elim⟩⟩

theorem of_le (h : p.Tracks ns unique s) (le : ns ≤ ns') (known : ns.contains p.type.space = true) :
    p.Tracks ns' unique s := by
  have same : variableName ns' p.type = variableName ns p.type :=
    funext (Namespaces.variableName_of_le le known)
  exact ⟨h.sound, h.counted, by rw [same]; exact h.kept⟩

theorem size_entries (h : p.Tracks ns false s) : p.entries.size = s.made := by
  have lengths := congrArg List.length (h.kept rfl).1
  rwa [OrderedMap.keys, List.length_map, List.length_map, List.length_range] at lengths

theorem name_mem_keys (h : p.Tracks ns false s) :
    variableName ns p.type n ∈ p.entries.keys ↔ n < s.made := by
  rw [(h.kept rfl).1, List.mem_map]
  constructor
  · rintro ⟨m, made, same⟩
    exact variableName_inj same ▸ List.mem_range.mp made
  · exact fun made => ⟨n, List.mem_range.mpr made, rfl⟩

/-- A pool hands out the name of the variable that its stock hands out. -/
theorem acquire (h : p.Tracks ns unique s) :
    (p.acquire ns unique).1 = (variableName ns p.type (s.take unique).1.1, (s.take unique).1.2) ∧
    (p.acquire ns unique).2.type = p.type ∧
    (p.acquire ns unique).2.Tracks ns unique (s.take unique).2 := by
  have sound := h.sound.take
  cases unique with
  | true =>
    obtain ⟨entries, free, count⟩ := h.counted rfl
    refine ⟨?_, rfl, sound, fun _ => ⟨entries, free, ?_⟩, nofun⟩
    · change (variableName ns p.type p.uniqueCount, false) = _
      rw [count]
      rfl
    · change p.uniqueCount + 1 = _
      rw [count]
      rfl
  | false =>
    obtain ⟨keys, free, flags⟩ := h.kept rfl
    rcases Stock.take_cases false s with ⟨n, rest, _, stock, taken⟩ | ⟨none, taken⟩
    · rw [stock, List.map_cons] at free
      have used : n < s.made := h.sound.made n (by rw [stock]; exact List.mem_cons_self)
      have rested : n ∉ rest := by
        have nodup := h.sound.nodup
        rw [stock] at nodup
        exact (List.nodup_cons.mp nodup).1
      have acquired : p.acquire ns false = ((variableName ns p.type n, true),
          { p with entries := p.entries.insert (variableName ns p.type n) false,
                   free := rest.map (variableName ns p.type) }) := by
        simp only [Pool.acquire, free, Bool.false_eq_true, if_false]
      rw [taken] at sound ⊢
      rw [acquired]
      refine ⟨rfl, rfl, sound, nofun, fun _ => ⟨?_, rfl, ?_⟩⟩
      · rw [OrderedMap.keys_insert, if_pos (h.name_mem_keys.mpr used)]
        exact keys
      · intro m made
        rw [OrderedMap.get?_insert]
        split
        · next same =>
          obtain rfl := variableName_inj same
          simp [rested]
        · next different =>
          have other : m ≠ n := fun same => different (by rw [same])
          rw [flags m made, stock]
          simp [other]
    · have empty := none rfl
      rw [empty, List.map_nil] at free
      have acquired : p.acquire ns false = ((variableName ns p.type s.made, false),
          { p with entries := p.entries.insert (variableName ns p.type s.made) false }) := by
        simp only [Pool.acquire, free, Bool.false_eq_true, if_false, h.size_entries]
      have fresh : variableName ns p.type s.made ∉ p.entries.keys :=
        fun known => Nat.lt_irrefl _ (h.name_mem_keys.mp known)
      rw [taken] at sound ⊢
      rw [acquired]
      refine ⟨rfl, rfl, sound, nofun, fun _ => ⟨?_, ?_, ?_⟩⟩
      · rw [OrderedMap.keys_insert, if_neg fresh, List.range_succ, List.map_append, keys]
        rfl
      · rw [empty]
        exact free
      · intro m made
        rw [OrderedMap.get?_insert, empty]
        split
        · rfl
        · next different =>
          have other : m ≠ s.made := fun same => different (by rw [same])
          rw [flags m (by have : m < s.made + 1 := made; omega), empty]

/-- A pool takes back the name of a variable in use. -/
theorem release (h : p.Tracks ns unique s) (used : s.InUse n) :
    (p.release (variableName ns p.type n)).type = p.type ∧
    (p.release (variableName ns p.type n)).Tracks ns unique (s.give unique n) := by
  have sound := h.sound.give used
  cases unique with
  | true =>
    obtain ⟨entries, free, count⟩ := h.counted rfl
    have ignored : p.release (variableName ns p.type n) = p := by
      simp [Pool.release, entries]
    rw [ignored]
    exact ⟨rfl, h⟩
  | false =>
    obtain ⟨keys, free, flags⟩ := h.kept rfl
    have flag : p.entries.get? (variableName ns p.type n) = some false := by
      rw [flags n used.1, decide_eq_false used.2]
    have released : p.release (variableName ns p.type n) =
        { p with entries := p.entries.insert (variableName ns p.type n) true,
                 free := variableName ns p.type n :: p.free } := by
      simp only [Pool.release, flag, if_true]
    rw [released]
    refine ⟨rfl, sound, fun counted => (Bool.false_ne_true counted).elim, fun _ => ⟨?_, ?_, ?_⟩⟩
    · rw [OrderedMap.keys_insert, if_pos (h.name_mem_keys.mpr used.1)]
      exact keys
    · rw [free]
      rfl
    · intro m made
      rw [OrderedMap.get?_insert]
      split
      · next same =>
        obtain rfl := variableName_inj same
        simp [Stock.give]
      · next different =>
        have other : m ≠ n := fun same => different (by rw [same])
        rw [flags m made]
        simp [Stock.give, other]

end Pool.Tracks

end DocScript
