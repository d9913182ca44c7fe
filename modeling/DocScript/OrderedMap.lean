/-!
# Maps in order of insertion

A map is a list of entries with distinct keys. A new key goes to the end; a known key keeps its
place and gets the new value.
-/

namespace DocScript

/-- Sets the value of a key in a list of entries. -/
def insertEntry {α β : Type} [DecidableEq α] (k : α) (v : β) : List (α × β) → List (α × β)
  | [] => [(k, v)]
  | (k', v') :: rest => if k' = k then (k', v) :: rest else (k', v') :: insertEntry k v rest

def lookupEntry {α β : Type} [DecidableEq α] (k : α) : List (α × β) → Option β
  | [] => none
  | (k', v) :: rest => if k' = k then some v else lookupEntry k rest

section

variable {α β : Type} [DecidableEq α]

theorem keys_insertEntry (k : α) (v : β) (es : List (α × β)) :
    (insertEntry k v es).map Prod.fst =
      if k ∈ es.map Prod.fst then es.map Prod.fst else es.map Prod.fst ++ [k] := by
  induction es with
  | nil => simp [insertEntry]
  | cons e rest ih =>
    obtain ⟨k', v'⟩ := e
    by_cases h : k' = k
    · subst h; simp [insertEntry]
    · have h' : ¬ k = k' := fun e => h e.symm
      simp only [insertEntry, h, if_false, List.map_cons, ih, List.mem_cons, h', false_or]
      split <;> simp

theorem nodup_insertEntry {k : α} {v : β} {es : List (α × β)} (h : (es.map Prod.fst).Nodup) :
    ((insertEntry k v es).map Prod.fst).Nodup := by
  rw [keys_insertEntry]
  split
  · exact h
  · next hk =>
    rw [List.nodup_append]
    refine ⟨h, by simp, ?_⟩
    intro a ha b hb e
    rw [List.mem_singleton] at hb
    subst e; subst hb
    exact hk ha

theorem lookupEntry_mem {k : α} {v : β} {es : List (α × β)} (h : lookupEntry k es = some v) :
    (k, v) ∈ es := by
  induction es with
  | nil => simp [lookupEntry] at h
  | cons e rest ih =>
    obtain ⟨k', v'⟩ := e
    by_cases hk : k' = k
    · simp only [lookupEntry, hk, if_true, Option.some.injEq] at h
      subst h; subst hk; simp
    · simp only [lookupEntry, hk, if_false] at h
      exact List.mem_cons_of_mem _ (ih h)

end

structure OrderedMap (α β : Type) where
  entries : List (α × β)
  nodup : (entries.map Prod.fst).Nodup
  deriving DecidableEq

namespace OrderedMap

variable {α β : Type}

def empty : OrderedMap α β := ⟨[], by simp⟩

instance : Inhabited (OrderedMap α β) := ⟨empty⟩
instance : EmptyCollection (OrderedMap α β) := ⟨empty⟩

def keys (m : OrderedMap α β) : List α := m.entries.map Prod.fst

def values (m : OrderedMap α β) : List β := m.entries.map Prod.snd

def size (m : OrderedMap α β) : Nat := m.entries.length

variable [DecidableEq α]

def get? (m : OrderedMap α β) (k : α) : Option β := lookupEntry k m.entries

def contains (m : OrderedMap α β) (k : α) : Bool := (m.get? k).isSome

def insert (m : OrderedMap α β) (k : α) (v : β) : OrderedMap α β :=
  ⟨insertEntry k v m.entries, nodup_insertEntry m.nodup⟩

/-- The map of some entries; the last entry of a key counts, at the place of the first. -/
def ofList (es : List (α × β)) : OrderedMap α β :=
  es.foldl (fun m e => m.insert e.1 e.2) empty

end OrderedMap

end DocScript
