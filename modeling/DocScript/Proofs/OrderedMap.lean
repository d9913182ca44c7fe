import DocScript.OrderedMap

/-!
# Look-up and insertion

What a map holds under a key after an insertion, and how its keys change.
-/

namespace DocScript

variable {α β : Type} [DecidableEq α]

theorem lookupEntry_insertEntry (k k' : α) (v : β) (es : List (α × β)) :
    lookupEntry k' (insertEntry k v es) = if k = k' then some v else lookupEntry k' es := by
  induction es with
  | nil => simp [insertEntry, lookupEntry]
  | cons e rest ih =>
    obtain ⟨key, value⟩ := e
    by_cases same : key = k
    · subst same
      simp only [insertEntry, if_true, lookupEntry]
      split <;> rfl
    · simp only [insertEntry, same, if_false, lookupEntry, ih]
      by_cases found : key = k'
      · subst found
        simp [Ne.symm same]
      · simp [found]

theorem lookupEntry_eq_none {k : α} {es : List (α × β)} :
    lookupEntry k es = none ↔ k ∉ es.map Prod.fst := by
  induction es with
  | nil => simp [lookupEntry]
  | cons e rest ih =>
    obtain ⟨key, value⟩ := e
    by_cases same : key = k
    · simp [lookupEntry, same]
    · simp [lookupEntry, same, ih, Ne.symm same]

theorem insertEntry_of_not_mem {k : α} {v : β} {es : List (α × β)} (h : k ∉ es.map Prod.fst) :
    insertEntry k v es = es ++ [(k, v)] := by
  induction es with
  | nil => rfl
  | cons e rest ih =>
    obtain ⟨key, value⟩ := e
    rw [List.map_cons, List.mem_cons, not_or] at h
    simp only [insertEntry, Ne.symm h.1, if_false, ih h.2, List.cons_append]

/-- The value that a key had is not counted any more, and the new one is. -/
theorem countP_insertEntry (f : β → Bool) (k : α) (v : β) (es : List (α × β)) :
    ((insertEntry k v es).map Prod.snd).countP f + (lookupEntry k es).toList.countP f =
      (es.map Prod.snd).countP f + [v].countP f := by
  induction es with
  | nil => simp [insertEntry, lookupEntry]
  | cons e rest ih =>
    obtain ⟨key, value⟩ := e
    by_cases same : key = k
    · simp only [insertEntry, lookupEntry, same, if_true, List.map_cons, List.countP_cons,
        Option.toList_some, List.countP_nil]
      omega
    · simp only [insertEntry, lookupEntry, same, if_false, List.map_cons, List.countP_cons,
        List.countP_nil] at ih ⊢
      omega

namespace OrderedMap

@[simp] theorem get?_empty (k : α) : (empty : OrderedMap α β).get? k = none := rfl

theorem get?_insert (m : OrderedMap α β) (k k' : α) (v : β) :
    (m.insert k v).get? k' = if k = k' then some v else m.get? k' :=
  lookupEntry_insertEntry k k' v m.entries

@[simp] theorem get?_insert_self (m : OrderedMap α β) (k : α) (v : β) :
    (m.insert k v).get? k = some v := by
  rw [get?_insert, if_pos rfl]

theorem get?_insert_of_ne (m : OrderedMap α β) {k k' : α} (v : β) (h : k ≠ k') :
    (m.insert k v).get? k' = m.get? k' := by
  rw [get?_insert, if_neg h]

theorem contains_iff {m : OrderedMap α β} {k : α} : m.contains k = true ↔ ∃ v, m.get? k = some v :=
  Option.isSome_iff_exists

theorem get?_eq_none {m : OrderedMap α β} {k : α} : m.get? k = none ↔ k ∉ m.keys :=
  lookupEntry_eq_none

theorem contains_iff_mem_keys {m : OrderedMap α β} {k : α} : m.contains k = true ↔ k ∈ m.keys := by
  rw [contains, Option.isSome_iff_ne_none, Ne, get?_eq_none, Decidable.not_not]

theorem mem_keys_of_get? {m : OrderedMap α β} {k : α} {v : β} (h : m.get? k = some v) :
    k ∈ m.keys :=
  contains_iff_mem_keys.mp (contains_iff.mpr ⟨v, h⟩)

theorem mem_entries_iff {m : OrderedMap α β} {k : α} {v : β} : (k, v) ∈ m.entries ↔ m.get? k = some v := by
  obtain ⟨es, distinct⟩ := m
  refine ⟨fun member => ?_, lookupEntry_mem⟩
  change lookupEntry k es = some v
  induction es with
  | nil => cases member
  | cons e rest ih =>
    obtain ⟨fresh, distinct⟩ := List.nodup_cons.mp distinct
    rcases List.mem_cons.mp member with rfl | later
    · simp [lookupEntry]
    · have different : e.1 ≠ k := by
        rintro rfl
        exact fresh (List.mem_map.mpr ⟨_, later, rfl⟩)
      rw [lookupEntry, if_neg different]
      exact ih distinct later

theorem mem_values_iff {m : OrderedMap α β} {v : β} : v ∈ m.values ↔ ∃ k, m.get? k = some v := by
  simp only [values, List.mem_map, Prod.exists, ← mem_entries_iff]
  constructor
  · rintro ⟨k, _, member, rfl⟩
    exact ⟨k, member⟩
  · rintro ⟨k, member⟩
    exact ⟨k, v, member, rfl⟩

theorem keys_insert (m : OrderedMap α β) (k : α) (v : β) :
    (m.insert k v).keys = if k ∈ m.keys then m.keys else m.keys ++ [k] :=
  keys_insertEntry k v m.entries

omit [DecidableEq α] in
theorem size_eq (m : OrderedMap α β) : m.size = m.keys.length := by
  rw [keys, List.length_map]
  rfl

theorem size_insert_of_mem {m : OrderedMap α β} {k : α} (v : β) (h : k ∈ m.keys) :
    (m.insert k v).size = m.size := by
  rw [size_eq, size_eq, keys_insert, if_pos h]

theorem size_insert_of_not_mem {m : OrderedMap α β} {k : α} (v : β) (h : k ∉ m.keys) :
    (m.insert k v).size = m.size + 1 := by
  rw [size_eq, size_eq, keys_insert, if_neg h, List.length_append, List.length_singleton]

theorem entries_insert_of_not_mem {m : OrderedMap α β} {k : α} (v : β) (h : k ∉ m.keys) :
    (m.insert k v).entries = m.entries ++ [(k, v)] :=
  insertEntry_of_not_mem h

theorem countP_values_insert (f : β → Bool) (m : OrderedMap α β) (k : α) (v : β) :
    (m.insert k v).values.countP f + (m.get? k).toList.countP f =
      m.values.countP f + [v].countP f :=
  countP_insertEntry f k v m.entries

theorem mem_insertEntry {k : α} {v : β} {es : List (α × β)} {e : α × β}
    (h : e ∈ insertEntry k v es) : e = (k, v) ∨ e ∈ es := by
  induction es with
  | nil => exact Or.inl (List.mem_singleton.mp h)
  | cons first rest ih =>
    rw [insertEntry] at h
    split at h
    · next same =>
      rcases List.mem_cons.mp h with rfl | member
      · exact Or.inl (same ▸ rfl)
      · exact Or.inr (List.mem_cons_of_mem _ member)
    · rcases List.mem_cons.mp h with rfl | member
      · exact Or.inr List.mem_cons_self
      · exact (ih member).imp_right (List.mem_cons_of_mem _)

/-- The entries of a map made from a list are entries of the list. -/
theorem mem_of_mem_ofList {es : List (α × β)} {e : α × β} (h : e ∈ (ofList es).entries) : e ∈ es := by
  have fold : ∀ (es : List (α × β)) (m : OrderedMap α β),
      e ∈ (es.foldl (fun m e => m.insert e.1 e.2) m).entries → e ∈ m.entries ∨ e ∈ es := by
    intro es
    induction es with
    | nil => exact fun _ member => Or.inl member
    | cons first rest ih =>
      intro m member
      rcases ih _ member with early | late
      · rcases mem_insertEntry early with same | member
        · exact Or.inr (same ▸ List.mem_cons_self)
        · exact Or.inl member
      · exact Or.inr (List.mem_cons_of_mem _ late)
  exact (fold es .empty h).resolve_left nofun

omit [DecidableEq α] in
theorem eq_of_entries {m n : OrderedMap α β} (h : m.entries = n.entries) : m = n := by
  cases m
  cases n
  cases h
  rfl

/-- A map is made from its own entries. -/
theorem ofList_entries (m : OrderedMap α β) : ofList m.entries = m := by
  have fold : ∀ (es : List (α × β)) (start : OrderedMap α β), (start.keys ++ es.map Prod.fst).Nodup →
      (es.foldl (fun m e => m.insert e.1 e.2) start).entries = start.entries ++ es := by
    intro es
    induction es with
    | nil => exact fun start _ => (List.append_nil _).symm
    | cons first rest ih =>
      intro start distinct
      have new : first.1 ∉ start.keys := fun member =>
        (List.nodup_append.mp distinct).2.2 _ member _ List.mem_cons_self rfl
      have keys := keys_insert start first.1 first.2
      rw [if_neg new] at keys
      rw [List.foldl_cons, ih, entries_insert_of_not_mem _ new, List.append_assoc]
      · rfl
      · rw [keys, List.append_assoc]
        exact distinct
  exact eq_of_entries (fold m.entries .empty m.nodup)

instance : LE (OrderedMap α β) := ⟨fun m n => ∀ k v, m.get? k = some v → n.get? k = some v⟩

theorem le_refl (m : OrderedMap α β) : m ≤ m := fun _ _ h => h

theorem le_trans {m n o : OrderedMap α β} (h : m ≤ n) (h' : n ≤ o) : m ≤ o :=
  fun k v found => h' k v (h k v found)

theorem le_insert {m : OrderedMap α β} {k : α} (v : β) (h : m.get? k = none) : m ≤ m.insert k v := by
  intro other old found
  have different : k ≠ other := by
    rintro rfl
    rw [h] at found
    cases found
  exact (get?_insert_of_ne _ _ different).trans found

end OrderedMap

end DocScript
