import DocScript.Proofs.Naming.Stocks

/-!
# Variables for parts

The tally numbers the parts of all types that have one full name. Parts of one type are told apart
by their numbers; the name of a type with arguments does not tell the arguments.
-/

namespace DocScript

def Variable.partName (v : Variable) (ns : Namespaces) : String :=
  Text.camelCase (Text.lower (ns.aliasOf v.type.space) ++ v.type.name) ++ attemptText v.number

namespace Variable

variable {ns ns' : Namespaces} {v : Variable}

theorem partName_of_le (h : ns ≤ ns') (known : ns.contains v.type.space = true) :
    v.partName ns' = v.partName ns := by
  rw [partName, partName, Namespaces.aliasOf_of_le h known]

theorem partName_inj {t : TypeId} {m n : Nat} (h : partName ⟨t, m⟩ ns = partName ⟨t, n⟩ ns) :
    m = n := by
  have numbers := congrArg String.toList h
  simp only [partName, String.toList_append] at numbers
  exact attemptText_inj (String.toList_inj.mp (List.append_cancel_left numbers))

def count (earlier : List TypeId) (key : String) : Nat := earlier.countP (·.fullName = key)

/-- The variables for parts of some types that are made after those for other parts. -/
def numbered (earlier : List TypeId) : List TypeId → List Variable
  | [] => []
  | t :: rest => ⟨t, count earlier t.fullName⟩ :: numbered (earlier ++ [t]) rest

theorem count_append_self (earlier : List TypeId) (t : TypeId) :
    count (earlier ++ [t]) t.fullName = count earlier t.fullName + 1 := by
  simp [count]

theorem count_append_of_ne {earlier : List TypeId} {t : TypeId} {key : String}
    (h : t.fullName ≠ key) : count (earlier ++ [t]) key = count earlier key := by
  simp [count, h]

theorem numbered_append (earlier ts us : List TypeId) :
    numbered earlier (ts ++ us) = numbered earlier ts ++ numbered (earlier ++ ts) us := by
  induction ts generalizing earlier with
  | nil => simp [numbered]
  | cons t rest ih => simp [numbered, ih]

theorem count_le_of_mem_numbered {earlier ts : List TypeId} (h : v ∈ numbered earlier ts) :
    count earlier v.type.fullName ≤ v.number := by
  induction ts generalizing earlier with
  | nil => cases h
  | cons t rest ih =>
    rcases List.mem_cons.mp h with rfl | later
    · exact Nat.le_refl _
    · refine Nat.le_trans ?_ (ih later)
      simp [count]

theorem nodup_numbered (earlier ts : List TypeId) : (numbered earlier ts).Nodup := by
  induction ts generalizing earlier with
  | nil => exact List.nodup_nil
  | cons t rest ih =>
    refine List.nodup_cons.mpr ⟨fun again => ?_, ih _⟩
    have later := count_le_of_mem_numbered again
    rw [count_append_self] at later
    exact Nat.not_succ_le_self _ later

end Variable

namespace Tally

open Variable

variable {tally : Tally} {earlier : List TypeId}

/-- The tally holds how many parts of each full name there were. -/
def Counts (tally : Tally) (earlier : List TypeId) : Prop :=
  ∀ key, tally.counts.get? key = if count earlier key = 0 then none else some (count earlier key)

theorem counts_empty : Tally.empty.Counts [] := fun _ => rfl

/-- The tally hands out the name of the next variable for a part of a type. -/
theorem Counts.next (counts : tally.Counts earlier) (base : String) (t : TypeId) :
    (tally.next base t.fullName).1 = base ++ attemptText (count earlier t.fullName) ∧
      (tally.next base t.fullName).2.Counts (earlier ++ [t]) := by
  have current := counts t.fullName
  have updated {new : Nat} (same : new = count earlier t.fullName + 1) :
      Counts ⟨tally.counts.insert t.fullName new⟩ (earlier ++ [t]) := by
    intro key
    by_cases h : t.fullName = key
    · subst h
      simp [count_append_self, same]
    · rw [count_append_of_ne h]
      exact (OrderedMap.get?_insert_of_ne _ _ h).trans (counts key)
  unfold Tally.next attemptText
  by_cases none : count earlier t.fullName = 0
  · rw [if_pos none] at current
    rw [current, if_pos none, String.append_empty]
    exact ⟨rfl, updated (by omega)⟩
  · rw [if_neg none] at current
    rw [current, if_neg none]
    exact ⟨rfl, updated rfl⟩

end Tally

end DocScript
