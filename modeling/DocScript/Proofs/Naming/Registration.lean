import Mathlib.Data.List.Nodup
import Mathlib.Data.String.Basic
import DocScript.Proofs.Naming.Namespaces
import DocScript.Proofs.Naming.Spelling

/-!
# Registration over a whole run

A run registers types and single namespaces, in any order. What is registered once keeps its place
and its alias; aliases that are not empty are different; and the imports list every namespace once,
in an order that can be told from the aliases alone.
-/

namespace DocScript

mutual

/-- The namespaces of a type and of its arguments, in the order in which they are registered. -/
def TypeId.spaces : TypeId → List String
  | ⟨space, _, args⟩ => spacesAll args ++ [space]

def TypeId.spacesAll : List TypeId → List String
  | [] => []
  | t :: rest => spaces t ++ spacesAll rest

end

mutual

theorem TypeId.mem_spaces {space : String} :
    ∀ t : TypeId, space ∈ t.spaces ↔ ∃ u ∈ t.parts, u.space = space
  | ⟨own, name, args⟩ => by
    rw [spaces, parts, List.mem_append, mem_spacesAll args]
    simp [or_comm, eq_comm]

theorem TypeId.mem_spacesAll {space : String} :
    ∀ ts : List TypeId, space ∈ spacesAll ts ↔ ∃ u ∈ partsAll ts, u.space = space
  | [] => by simp [spacesAll, partsAll]
  | t :: rest => by
    rw [spacesAll, partsAll, List.mem_append, mem_spaces t, mem_spacesAll rest]
    simp only [List.mem_append, or_and_right, exists_or]

end

/-- One call on the table of namespaces: for a type with its arguments, or for a namespace that is
only needed by itself. -/
inductive Registration where
  | type (t : TypeId)
  | space (name : String)

def Registration.spaces : Registration → List String
  | type t => t.spaces
  | space name => [name]

namespace Namespaces

variable {schema : Registry} {ns ns' : Namespaces} {t : TypeId} {space : String}
  {entered : List String}

def perform (schema : Registry) (ns : Namespaces) : Registration → Namespaces
  | .type t => ns.register schema t
  | .space name => ns.addPlain name

def performAll (schema : Registry) (ns : Namespaces) (calls : List Registration) : Namespaces :=
  calls.foldl (perform schema) ns

theorem performAll_append (schema : Registry) (ns : Namespaces) (calls more : List Registration) :
    performAll schema ns (calls ++ more) = performAll schema (performAll schema ns calls) more :=
  List.foldl_append

/-! ### What is registered stays -/

theorem le_perform (schema : Registry) (ns : Namespaces) (call : Registration) :
    ns ≤ perform schema ns call := by
  cases call with
  | type t => exact le_register schema ns t
  | space name => exact le_addPlain ns name

theorem le_performAll (schema : Registry) (ns : Namespaces) (calls : List Registration) :
    ns ≤ performAll schema ns calls := by
  induction calls generalizing ns with
  | nil => exact le_refl ns
  | cons call rest ih => exact le_trans (le_perform schema ns call) (ih _)

theorem registerSpace_of_contains (h : ns.contains t.space = true) :
    registerSpace schema ns t = ns := by
  rw [registerSpace, if_pos h]

mutual

theorem register_of_contains : ∀ t : TypeId, (∀ space ∈ t.spaces, ns.contains space = true) →
    ns.register schema t = ns
  | ⟨own, name, args⟩, known => by
    rw [TypeId.spaces] at known
    rw [register, registerAll_of_contains args fun s member => known s (List.mem_append_left _ member)]
    exact registerSpace_of_contains (known own (List.mem_append_right _ (List.mem_singleton_self _)))

theorem registerAll_of_contains : ∀ ts : List TypeId,
    (∀ space ∈ TypeId.spacesAll ts, ns.contains space = true) → ns.registerAll schema ts = ns
  | [], _ => by rw [registerAll]
  | t :: rest, known => by
    rw [TypeId.spacesAll] at known
    rw [registerAll, register_of_contains t fun s member => known s (List.mem_append_left _ member)]
    exact registerAll_of_contains rest fun s member => known s (List.mem_append_right _ member)

end

mutual

/-- A type is registered one namespace after the other. -/
theorem keeps_register {P : Namespaces → Prop}
    (own : ∀ ns t, P ns → P (registerSpace schema ns t)) :
    ∀ (t : TypeId) {ns : Namespaces}, P ns → P (ns.register schema t)
  | ⟨space, name, args⟩, _, h => by
    rw [register]
    exact own _ _ (keeps_registerAll own args h)

theorem keeps_registerAll {P : Namespaces → Prop}
    (own : ∀ ns t, P ns → P (registerSpace schema ns t)) :
    ∀ (ts : List TypeId) {ns : Namespaces}, P ns → P (ns.registerAll schema ts)
  | [], _, h => by rwa [registerAll]
  | t :: rest, _, h => by
    rw [registerAll]
    exact keeps_registerAll own rest (keeps_register own t h)

end

/-! ### The order of first registration -/

/-- The table holds the namespaces of a list, in the order in which they first stand there. -/
def Holds (ns : Namespaces) (entered : List String) : Prop := ns.aliases.keys = entered.eraseDups

theorem Holds.contains_iff (h : ns.Holds entered) : ns.contains space = true ↔ space ∈ entered := by
  rw [contains, OrderedMap.contains_iff_mem_keys, h, List.mem_eraseDups]

theorem Holds.known (h : ns.Holds entered) (known : ns.contains space = true) :
    ns.Holds (entered ++ [space]) := by
  have earlier : [space].removeAll entered = [] := by
    simp [List.removeAll, h.contains_iff.mp known]
  rw [Holds, List.eraseDups_append, earlier, List.eraseDups_nil, List.append_nil]
  exact h

theorem Holds.insert {aliasName : String} (h : ns.Holds entered)
    (unknown : ¬ ns.contains space = true) :
    Holds ⟨ns.aliases.insert space aliasName⟩ (entered ++ [space]) := by
  have later : space ∉ entered := fun member => unknown (h.contains_iff.mpr member)
  have fresh : [space].removeAll entered = [space] := by simp [List.removeAll, later]
  have absent : space ∉ ns.aliases.keys := by
    intro member
    exact unknown (OrderedMap.contains_iff_mem_keys.mpr member)
  rw [Holds, List.eraseDups_append, fresh, OrderedMap.keys_insert, if_neg absent, h]
  rfl

theorem Holds.addPlain (h : ns.Holds entered) : (ns.addPlain space).Holds (entered ++ [space]) := by
  unfold Namespaces.addPlain
  split
  · exact h.known ‹_›
  · exact h.insert ‹_›

theorem Holds.registerSpace (h : ns.Holds entered) :
    (Namespaces.registerSpace schema ns t).Holds (entered ++ [t.space]) := by
  unfold Namespaces.registerSpace
  split
  · exact h.known ‹_›
  · exact h.insert ‹_›

mutual

theorem Holds.register : ∀ (t : TypeId) {ns : Namespaces} {entered : List String},
    ns.Holds entered → (ns.register schema t).Holds (entered ++ t.spaces)
  | ⟨own, name, args⟩, _, _, h => by
    rw [Namespaces.register, TypeId.spaces, ← List.append_assoc]
    exact (Holds.registerAll args h).registerSpace

theorem Holds.registerAll : ∀ (ts : List TypeId) {ns : Namespaces} {entered : List String},
    ns.Holds entered → (ns.registerAll schema ts).Holds (entered ++ TypeId.spacesAll ts)
  | [], _, _, h => by simpa [Namespaces.registerAll, TypeId.spacesAll] using h
  | t :: rest, _, _, h => by
    rw [Namespaces.registerAll, TypeId.spacesAll, ← List.append_assoc]
    exact Holds.registerAll rest (Holds.register t h)

end

theorem holds_performAll (h : ns.Holds entered) (calls : List Registration) :
    (performAll schema ns calls).Holds (entered ++ calls.flatMap Registration.spaces) := by
  induction calls generalizing ns entered with
  | nil => simpa [performAll] using h
  | cons call rest ih =>
    have step : (perform schema ns call).Holds (entered ++ call.spaces) := by
      cases call with
      | type t => exact h.register t
      | space name => exact h.addPlain
    rw [List.flatMap_cons, ← List.append_assoc]
    exact ih step

theorem holds_self (ns : Namespaces) : ns.Holds ns.aliases.keys := by
  have distinct : ns.aliases.keys.Nodup := ns.aliases.nodup
  have stays : ∀ keys : List String, keys.Nodup → keys.eraseDups = keys := by
    intro keys nodup
    induction keys with
    | nil => rfl
    | cons key rest ih =>
      obtain ⟨fresh, nodup⟩ := List.nodup_cons.mp nodup
      have kept : rest.filter (fun other => !other == key) = rest := by
        refine List.filter_eq_self.mpr fun other member => ?_
        have different : other ≠ key := fun same => fresh (same ▸ member)
        simp [different]
      rw [List.eraseDups_cons, kept, ih nodup]
  exact (stays _ distinct).symm

theorem contains_register_of_mem (schema : Registry) (ns : Namespaces) (member : space ∈ t.spaces) :
    (ns.register schema t).contains space = true :=
  (ns.holds_self.register t).contains_iff.mpr (List.mem_append_right _ member)

theorem contains_performAll (schema : Registry) (ns : Namespaces) {calls : List Registration}
    (member : space ∈ calls.flatMap Registration.spaces) :
    (performAll schema ns calls).contains space = true :=
  (holds_performAll ns.holds_self calls).contains_iff.mpr (List.mem_append_right _ member)

/-- Nothing comes of registrations whose namespaces are all known. -/
theorem performAll_of_contains {calls : List Registration}
    (known : ∀ space ∈ calls.flatMap Registration.spaces, ns.contains space = true) :
    performAll schema ns calls = ns := by
  induction calls with
  | nil => rfl
  | cons call rest ih =>
    rw [List.flatMap_cons] at known
    have others := ih fun space member => known space (List.mem_append_right _ member)
    have first : perform schema ns call = ns := by
      have own := fun space member => known space (List.mem_append_left _ member)
      cases call with
      | type t => exact register_of_contains t own
      | space name => exact if_pos (own name (List.mem_singleton_self name))
    rw [performAll, List.foldl_cons, first]
    exact others

theorem performAll_of_le {calls : List Registration} (le : performAll schema ns calls ≤ ns') :
    performAll schema ns' calls = ns' :=
  performAll_of_contains fun _ member => contains_of_le le (contains_performAll schema ns member)

/-! ### Aliases are different -/

theorem mem_taken {aliasName : String} :
    aliasName ∈ ns.taken ↔ aliasName ≠ "" ∧ ∃ space, ns.aliases.get? space = some aliasName := by
  rw [taken, List.mem_filter, decide_eq_true_eq, OrderedMap.mem_values_iff, and_comm]

/-- The loop looks at one name more than can be taken, so it ends at the first free one. -/
theorem firstFree_eq (taken : List String) (base : String) :
    ∃ n, 2 ≤ n ∧ firstFree taken base taken.length 2 = base ++ Nat.repr n ∧
      base ++ Nat.repr n ∉ taken ∧ ∀ m, 2 ≤ m → m < n → base ++ Nat.repr m ∈ taken := by
  have search : ∀ fuel start, (∀ m, 2 ≤ m → m < start → base ++ Nat.repr m ∈ taken) → 2 ≤ start →
      ∃ n, 2 ≤ n ∧ firstFree taken base fuel start = base ++ Nat.repr n ∧
        (∀ m, 2 ≤ m → m < n → base ++ Nat.repr m ∈ taken) ∧
        (base ++ Nat.repr n ∉ taken ∨ n = start + fuel) := by
    intro fuel
    induction fuel with
    | zero => exact fun start tried above => ⟨start, above, rfl, tried, Or.inr rfl⟩
    | succ fuel ih =>
      intro start tried above
      unfold firstFree
      by_cases used : base ++ Nat.repr start ∈ taken
      · rw [if_pos (List.contains_iff_mem.mpr used)]
        have tried' : ∀ m, 2 ≤ m → m < start + 1 → base ++ Nat.repr m ∈ taken := by
          intro m low high
          by_cases last : m = start
          · exact last ▸ used
          · exact tried m low (by omega)
        obtain ⟨n, low, found, before, free⟩ := ih (start + 1) tried' (by omega)
        exact ⟨n, low, found, before, free.imp_right fun same => by omega⟩
      · rw [if_neg fun known => used (List.contains_iff_mem.mp known)]
        exact ⟨start, above, rfl, tried, Or.inl used⟩
  obtain ⟨n, low, found, before, free⟩ := search taken.length 2 (by omega) (Nat.le_refl 2)
  refine ⟨n, low, found, fun used => ?_, before⟩
  rcases free with free | last
  · exact free used
  -- Otherwise the names from 2 to n are all taken, and they are more than the taken ones.
  have numbers : (List.range' 2 (taken.length + 1)).map (fun m => base ++ Nat.repr m) ⊆ taken := by
    intro name member
    obtain ⟨m, inside, rfl⟩ := List.mem_map.mp member
    rw [List.mem_range'_1] at inside
    by_cases top : m = n
    · exact top ▸ used
    · exact before m inside.1 (by omega)
  have distinct : ((List.range' 2 (taken.length + 1)).map fun m => base ++ Nat.repr m).Nodup := by
    have numerals : (List.range' 2 (taken.length + 1)).Nodup := List.nodup_range'
    refine List.pairwise_map.mpr (numerals.imp fun different same => different ?_)
    exact repr_inj (String.append_right_inj base |>.mp same)
  have many := List.Nodup.length_le_of_subset distinct numbers
  rw [List.length_map, List.length_range'] at many
  omega

/-- An alias is what the type asks for, or the same with the first number from 2 on that is free. -/
theorem chooseAlias_cases (schema : Registry) (ns : Namespaces) (t : TypeId) :
    (chooseAlias schema ns t = wantedAlias schema t ∧ wantedAlias schema t ∉ ns.taken) ∨
    (wantedAlias schema t ∈ ns.taken ∧
      ∃ n, 2 ≤ n ∧ chooseAlias schema ns t = wantedAlias schema t ++ Nat.repr n ∧
        wantedAlias schema t ++ Nat.repr n ∉ ns.taken ∧
        ∀ m, 2 ≤ m → m < n → wantedAlias schema t ++ Nat.repr m ∈ ns.taken) := by
  unfold chooseAlias
  by_cases used : wantedAlias schema t ∈ ns.taken
  · rw [if_pos (List.contains_iff_mem.mpr used)]
    exact Or.inr ⟨used, firstFree_eq _ _⟩
  · rw [if_neg fun known => used (List.contains_iff_mem.mp known)]
    exact Or.inl ⟨rfl, used⟩

theorem chooseAlias_not_taken (schema : Registry) (ns : Namespaces) (t : TypeId) :
    chooseAlias schema ns t ∉ ns.taken := by
  rcases chooseAlias_cases schema ns t with ⟨chosen, free⟩ | ⟨_, n, _, chosen, free, _⟩
  · rwa [chosen]
  · rwa [chosen]

/-- No two namespaces have one alias, unless it is empty. -/
def AliasesApart (ns : Namespaces) : Prop :=
  ∀ space other aliasName, ns.aliases.get? space = some aliasName →
    ns.aliases.get? other = some aliasName → aliasName ≠ "" → space = other

theorem AliasesApart.insert {aliasName : String} (apart : ns.AliasesApart)
    (free : aliasName ∉ ns.taken) :
    AliasesApart ⟨ns.aliases.insert space aliasName⟩ := by
  -- A free alias belongs to no namespace yet, unless it is empty.
  have absent : ∀ other, ns.aliases.get? other = some aliasName → aliasName = "" := by
    intro other found
    by_contra filled
    exact free (mem_taken.mpr ⟨filled, other, found⟩)
  intro first second shared hfirst hsecond filled
  simp only [OrderedMap.get?_insert] at hfirst hsecond
  split at hfirst <;> split at hsecond
  · next a b => exact a.symm.trans b
  · obtain rfl := Option.some.inj hfirst
    exact (filled (absent _ hsecond)).elim
  · obtain rfl := Option.some.inj hsecond
    exact (filled (absent _ hfirst)).elim
  · exact apart first second shared hfirst hsecond filled

theorem AliasesApart.registerSpace (apart : ns.AliasesApart) :
    (Namespaces.registerSpace schema ns t).AliasesApart := by
  unfold Namespaces.registerSpace
  split
  · exact apart
  · apply apart.insert
    split
    · exact chooseAlias_not_taken schema ns t
    · intro member
      exact (mem_taken.mp member).1 rfl

theorem AliasesApart.register (apart : ns.AliasesApart) (t : TypeId) :
    (ns.register schema t).AliasesApart :=
  keeps_register (fun _ _ apart => apart.registerSpace) t apart

theorem AliasesApart.addPlain (apart : ns.AliasesApart) : (ns.addPlain space).AliasesApart := by
  unfold Namespaces.addPlain
  split
  · exact apart
  · exact apart.insert fun member => (mem_taken.mp member).1 rfl

theorem aliasesApart_performAll (apart : ns.AliasesApart) (calls : List Registration) :
    (performAll schema ns calls).AliasesApart := by
  induction calls generalizing ns with
  | nil => exact apart
  | cons call rest ih =>
    have step : (perform schema ns call).AliasesApart := by
      cases call with
      | type t => exact apart.register t
      | space name => exact apart.addPlain
    exact ih step

theorem aliasesApart_empty : Namespaces.empty.AliasesApart := nofun

/-! ### Imports -/

/-- The first import stands before the second: by the alias or else the name, and then by name. -/
def Precedes (i j : Import) : Prop :=
  (sortKey i).1 < (sortKey j).1 ∨ (sortKey i).1 = (sortKey j).1 ∧ i.space < j.space

theorem sortsBefore_iff {i j : Import} :
    sortsBefore i j = true ↔
      Precedes i j ∨ (sortKey i).1 = (sortKey j).1 ∧ i.space = j.space := by
  have key (i : Import) : (sortKey i).2 = i.space := rfl
  unfold sortsBefore Precedes
  rw [Bool.or_eq_true, Bool.and_eq_true, decide_eq_true_eq, decide_eq_true_eq, beq_iff_eq, key, key,
    le_iff_lt_or_eq]
  tauto

theorem sortsBefore_trans (i j k : Import) (h : sortsBefore i j = true)
    (h' : sortsBefore j k = true) : sortsBefore i k = true := by
  rw [sortsBefore_iff] at *
  unfold Precedes at *
  rcases h with (first | ⟨key, first⟩) | ⟨key, same⟩ <;>
    rcases h' with (second | ⟨key', second⟩) | ⟨key', same'⟩
  · exact Or.inl (Or.inl (first.trans second))
  · exact Or.inl (Or.inl (key' ▸ first))
  · exact Or.inl (Or.inl (key' ▸ first))
  · exact Or.inl (Or.inl (key ▸ second))
  · exact Or.inl (Or.inr ⟨key.trans key', first.trans second⟩)
  · exact Or.inl (Or.inr ⟨key.trans key', same' ▸ first⟩)
  · exact Or.inl (Or.inl (key ▸ second))
  · exact Or.inl (Or.inr ⟨key.trans key', same ▸ second⟩)
  · exact Or.inr ⟨key.trans key', same.trans same'⟩

theorem sortsBefore_total (i j : Import) : (sortsBefore i j || sortsBefore j i) = true := by
  rw [Bool.or_eq_true, sortsBefore_iff, sortsBefore_iff]
  unfold Precedes
  rcases lt_trichotomy (sortKey i).1 (sortKey j).1 with less | same | more
  · exact Or.inl (Or.inl (Or.inl less))
  · rcases lt_trichotomy i.space j.space with less | same' | more
    · exact Or.inl (Or.inl (Or.inr ⟨same, less⟩))
    · exact Or.inl (Or.inr ⟨same, same'⟩)
    · exact Or.inr (Or.inl (Or.inr ⟨same.symm, more⟩))
  · exact Or.inr (Or.inl (Or.inl more))

theorem imports_perm (policy : NamePolicy) (ns : Namespaces) :
    (ns.imports policy).Perm (ns.imports .full) := by
  cases policy with
  | full => exact List.Perm.refl _
  | short => exact List.mergeSort_perm _ _

theorem mem_imports {policy : NamePolicy} {i : Import} :
    i ∈ ns.imports policy ↔ ns.aliases.get? i.space = some i.aliasName := by
  rw [(imports_perm policy ns).mem_iff, ← OrderedMap.mem_entries_iff]
  simp only [imports, List.mem_map, Prod.exists]
  constructor
  · rintro ⟨space, aliasName, member, rfl⟩
    exact member
  · intro member
    exact ⟨_, _, member, rfl⟩

theorem spaces_imports_full (ns : Namespaces) :
    (ns.imports .full).map (·.space) = ns.aliases.keys := by
  simp [imports, OrderedMap.keys, Function.comp_def]

theorem nodup_spaces_imports (policy : NamePolicy) (ns : Namespaces) :
    ((ns.imports policy).map (·.space)).Nodup := by
  rw [((imports_perm policy ns).map _).nodup_iff, spaces_imports_full]
  exact ns.aliases.nodup

theorem nodup_imports (policy : NamePolicy) (ns : Namespaces) : (ns.imports policy).Nodup :=
  List.Nodup.of_map (·.space) (nodup_spaces_imports policy ns)

theorem sorted_imports (ns : Namespaces) : (ns.imports .short).Pairwise Precedes := by
  have sorted : (ns.imports .short).Pairwise fun i j => sortsBefore i j = true :=
    List.pairwise_mergeSort sortsBefore_trans sortsBefore_total _
  have distinct := List.pairwise_map.mp (nodup_spaces_imports .short ns)
  refine sorted.imp₂ (fun i j before different => ?_) distinct
  rcases sortsBefore_iff.mp before with less | ⟨_, same⟩
  · exact less
  · exact (different same).elim

/-- The sorted imports of two tables with the same aliases are the same, however they were made. -/
theorem imports_congr (same : ∀ space, ns.aliases.get? space = ns'.aliases.get? space) :
    ns.imports .short = ns'.imports .short := by
  have members : ∀ i, i ∈ ns.imports .short ↔ i ∈ ns'.imports .short := by
    intro i
    rw [mem_imports, mem_imports, same]
  -- Two sorted lists with the same members are one list, since the order is strict.
  have perm := (List.perm_ext_iff_of_nodup (nodup_imports .short ns) (nodup_imports .short ns')).mpr
    members
  refine perm.eq_of_pairwise (fun i j _ _ before after => ?_) (sorted_imports ns) (sorted_imports ns')
  unfold Precedes at before after
  rcases before with less | ⟨key, less⟩
  · rcases after with less' | ⟨key', _⟩
    · exact (lt_asymm less less').elim
    · exact (less.ne key'.symm).elim
  · rcases after with less' | ⟨_, less'⟩
    · exact (less'.ne key.symm).elim
    · exact (lt_asymm less less').elim

/-- Whatever a run has registered and will register: what is known keeps its alias, and a type whose
namespaces are known changes nothing; a type brings in all its namespaces; aliases that are not
empty are different, and the search for one ends at the first that is free; every namespace is
imported once, with its alias, in the order of first registration or else strictly sorted, and the
sorted list can be told from the aliases alone. -/
theorem performAll_keeps_and_lists (schema : Registry) (calls later : List Registration) :
    let ns := performAll schema .empty calls
    let last := performAll schema ns later
    (∀ space aliasName, ns.aliases.get? space = some aliasName →
      last.aliases.get? space = some aliasName) ∧
    (∀ t : TypeId, (∀ u ∈ t.parts, ns.contains u.space = true) → last.register schema t = last) ∧
    (∀ t : TypeId, ∀ u ∈ t.parts, (ns.register schema t).contains u.space = true) ∧
    (∀ space other aliasName, ns.aliases.get? space = some aliasName →
      ns.aliases.get? other = some aliasName → aliasName ≠ "" → space = other) ∧
    (∀ t, (chooseAlias schema ns t = wantedAlias schema t ∧ wantedAlias schema t ∉ ns.taken) ∨
      (wantedAlias schema t ∈ ns.taken ∧
        ∃ n, 2 ≤ n ∧ chooseAlias schema ns t = wantedAlias schema t ++ Nat.repr n ∧
          wantedAlias schema t ++ Nat.repr n ∉ ns.taken ∧
          ∀ m, 2 ≤ m → m < n → wantedAlias schema t ++ Nat.repr m ∈ ns.taken)) ∧
    (∀ policy, ((ns.imports policy).map (·.space)).Nodup ∧
      ∀ i, i ∈ ns.imports policy ↔ ns.aliases.get? i.space = some i.aliasName) ∧
    (ns.imports .full).map (·.space) = (calls.flatMap Registration.spaces).eraseDups ∧
    (ns.imports .short).Pairwise Precedes ∧
    ∀ other : Namespaces, (∀ space, ns.aliases.get? space = other.aliases.get? space) →
      ns.imports .short = other.imports .short := by
  intro ns last
  have kept : ns ≤ last := le_performAll schema ns later
  have start : Namespaces.empty.Holds [] := rfl
  refine ⟨kept, fun t known => ?_, fun t u inside => ?_, ?_, chooseAlias_cases schema ns, ?_, ?_,
    sorted_imports ns, fun other same => imports_congr same⟩
  · refine register_of_contains t fun space member => ?_
    obtain ⟨u, inside, rfl⟩ := (TypeId.mem_spaces t).mp member
    exact contains_of_le kept (known u inside)
  · exact contains_register_of_mem schema ns ((TypeId.mem_spaces t).mpr ⟨u, inside, rfl⟩)
  · exact aliasesApart_performAll aliasesApart_empty calls
  · exact fun policy => ⟨nodup_spaces_imports policy ns, fun i => mem_imports⟩
  · rw [spaces_imports_full]
    exact holds_performAll start calls

end Namespaces

end DocScript
