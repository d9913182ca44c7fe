import DocScript.Naming.Pool
import DocScript.Proofs.Naming.Spelling
import DocScript.Proofs.OrderedMap

/-!
# Names that are not empty

A variable of a type whose name is not empty has a name that is not empty, whether it is made or
taken from the names that were released.
-/

namespace DocScript

open Text

theorem variableName_ne_empty {ns : Namespaces} {t : TypeId} (named : t.name ≠ "") (attempt : Nat) :
    variableName ns t attempt ≠ "" := by
  unfold variableName
  dsimp only
  rw [Ne, camelCase_eq_empty_iff]
  simp only [String.append_eq_empty_iff, named, and_false, false_and, not_false_eq_true]

namespace Pool

/-- A pool of a type, with names that are not empty if that of the type is not. -/
structure Full (t : TypeId) (p : Pool) : Prop where
  type : p.type = t
  free : t.name ≠ "" → ∀ name ∈ p.free, name ≠ ""
  kept : t.name ≠ "" → p.entries.get? "" = none

variable {t : TypeId} {p : Pool}

theorem full_empty (t : TypeId) : (empty t).Full t := ⟨rfl, fun _ => nofun, fun _ => rfl⟩

theorem Full.acquire (h : p.Full t) (ns : Namespaces) (unique : Bool) :
    (t.name ≠ "" → (p.acquire ns unique).1.1 ≠ "") ∧ (p.acquire ns unique).2.Full t := by
  have made (named : t.name ≠ "") (attempt : Nat) : variableName ns p.type attempt ≠ "" := by
    rw [h.type]
    exact variableName_ne_empty named attempt
  unfold Pool.acquire
  split
  · dsimp only
    exact ⟨fun named => made named p.uniqueCount, h.type, h.free, h.kept⟩
  · split
    · next name rest whole =>
      have all (named : t.name ≠ "") : ∀ n ∈ name :: rest, n ≠ "" := by
        rw [← whole]
        exact h.free named
      refine ⟨fun named => all named name List.mem_cons_self, h.type, fun named n member => ?_,
        fun named => ?_⟩
      · exact all named n (List.mem_cons_of_mem name member)
      · have different := all named name List.mem_cons_self
        rw [OrderedMap.get?_insert_of_ne _ _ different]
        exact h.kept named
    · dsimp only
      refine ⟨fun named => made named p.entries.size, h.type, h.free, fun named => ?_⟩
      rw [OrderedMap.get?_insert_of_ne _ _ (made named p.entries.size)]
      exact h.kept named

theorem Full.release (h : p.Full t) (name : String) : (p.release name).Full t := by
  unfold Pool.release
  split
  · next used =>
    have different (named : t.name ≠ "") : name ≠ "" := by
      rintro rfl
      rw [h.kept named] at used
      cases used
    refine ⟨h.type, fun named n member => ?_, fun named => ?_⟩
    · rcases List.mem_cons.mp member with rfl | earlier
      · exact different named
      · exact h.free named n earlier
    · rw [OrderedMap.get?_insert_of_ne _ _ (different named)]
      exact h.kept named
  · exact h

end Pool

namespace Pools

def Full (ps : Pools) : Prop := ∀ t p, ps.get? t = some p → p.Full t

variable {ps : Pools}

theorem full_empty : empty.Full := nofun

theorem Full.insert (h : ps.Full) {t : TypeId} {p : Pool} (full : p.Full t) :
    Full ⟨ps.byType.insert t p⟩ := by
  intro u q found
  change (ps.byType.insert t p).get? u = some q at found
  rw [OrderedMap.get?_insert] at found
  split at found
  · next same =>
    obtain rfl := Option.some.inj found
    rw [← same]
    exact full
  · exact h u q found

theorem Full.acquire (h : ps.Full) (ns : Namespaces) (unique : Bool) (t : TypeId) :
    (t.name ≠ "" → (ps.acquire ns unique t).1.1 ≠ "") ∧ (ps.acquire ns unique t).2.Full := by
  have pool : ((ps.get? t).getD (.empty t)).Full t := by
    cases found : ps.get? t with
    | none => exact Pool.full_empty t
    | some p => exact h t p found
  obtain ⟨name, after⟩ := pool.acquire ns unique
  exact ⟨name, h.insert after⟩

theorem Full.release (h : ps.Full) (t : TypeId) (name : String) : (ps.release t name).Full := by
  unfold Pools.release
  split
  · next p found => exact h.insert ((h t p found).release name)
  · exact h

end Pools

end DocScript
