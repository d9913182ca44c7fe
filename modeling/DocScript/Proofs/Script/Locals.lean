import DocScript.Proofs.Naming.Tally
import DocScript.Proofs.Script.Scope

/-!
# Variables of routines

Names are made for one type at a time, so that two variables of one type have different names. A
routine declares no name twice if and only if this also holds of different types, and no variable
is named like a parameter.
-/

namespace DocScript

/-- A variable of a routine: the type that its name was made for, and the name. -/
structure Local where
  type : TypeId
  name : String
  deriving DecidableEq

namespace Local

/-- No variables of different types have one name, and none has one that is taken. -/
def Apart (taken : List String) (vs : List Local) : Prop :=
  (∀ a ∈ vs, ∀ b ∈ vs, a.type ≠ b.type → a.name ≠ b.name) ∧ ∀ a ∈ vs, a.name ∉ taken

instance (taken : List String) (vs : List Local) : Decidable (Apart taken vs) :=
  inferInstanceAs (Decidable (_ ∧ _))

def Numbered (vs : List Local) : Prop := vs.Pairwise fun a b => a.type = b.type → a.name ≠ b.name

theorem numbered_of_nodup {vs : List Variable} {spell : Variable → String}
    (legible : ∀ t m n, spell ⟨t, m⟩ = spell ⟨t, n⟩ → m = n) (distinct : vs.Nodup) :
    Numbered (vs.map fun v => ⟨v.type, spell v⟩) := by
  refine List.pairwise_map.mpr (distinct.imp fun {v x} different type name => different ?_)
  obtain ⟨t, m⟩ := v
  obtain ⟨u, n⟩ := x
  obtain rfl : t = u := type
  rw [legible t m n name]

theorem nodup_names_iff {vs : List Local} (numbered : Numbered vs) :
    (vs.map (·.name)).Nodup ↔ ∀ a ∈ vs, ∀ b ∈ vs, a.type ≠ b.type → a.name ≠ b.name := by
  induction vs with
  | nil => simp
  | cons v rest ih =>
    obtain ⟨first, others⟩ := List.pairwise_cons.mp numbered
    rw [List.map_cons, List.nodup_cons, ih others]
    constructor
    · rintro ⟨fresh, distinct⟩ a ha b hb types names
      rcases List.mem_cons.mp ha with rfl | later
      · rcases List.mem_cons.mp hb with rfl | later
        · exact types rfl
        · exact fresh (List.mem_map.mpr ⟨b, later, names.symm⟩)
      · rcases List.mem_cons.mp hb with rfl | later'
        · exact fresh (List.mem_map.mpr ⟨a, later, names⟩)
        · exact distinct a later b later' types names
    · intro apart
      refine ⟨fun again => ?_, fun a ha b hb =>
        apart a (List.mem_cons_of_mem _ ha) b (List.mem_cons_of_mem _ hb)⟩
      obtain ⟨b, hb, same⟩ := List.mem_map.mp again
      by_cases types : v.type = b.type
      · exact first b hb types same.symm
      · exact apart v List.mem_cons_self b (List.mem_cons_of_mem _ hb) types same.symm

theorem nodup_iff {taken : List String} {vs : List Local} (distinct : taken.Nodup)
    (numbered : Numbered vs) : (taken ++ vs.map (·.name)).Nodup ↔ Apart taken vs := by
  rw [List.nodup_append, nodup_names_iff numbered, Apart]
  constructor
  · rintro ⟨_, types, apart⟩
    refine ⟨types, fun a member old => ?_⟩
    exact apart _ old _ (List.mem_map.mpr ⟨a, member, rfl⟩) rfl
  · rintro ⟨types, apart⟩
    refine ⟨distinct, types, fun x old y new same => ?_⟩
    obtain ⟨a, member, rfl⟩ := List.mem_map.mp new
    exact apart a member (same ▸ old)

end Local

/-- A routine declares some variables, and mentions only these and its parameters. -/
structure Routine.Holds (r : Routine) (vs : List Local) : Prop where
  mentions : Instr.Scoped r.parameterNames r.walk
  returns : ∀ x ∈ Expr.mentionsTarget r.returns, x ∈ Instr.declaredIn r.walk
  declared : Instr.declaredIn r.walk = vs.map (·.name)
  parameters : r.parameterNames.Nodup
  numbered : Local.Numbered vs

namespace Routine.Holds

variable {r : Routine} {vs : List Local}

theorem definedBeforeUse (h : r.Holds vs) : r.DefinedBeforeUse :=
  ⟨Instr.scoped_iff.mp h.mentions, fun x read => Or.inr (h.returns x read)⟩

theorem declaresOnce_iff (h : r.Holds vs) : r.DeclaresOnce ↔ Local.Apart r.parameterNames vs := by
  rw [Routine.DeclaresOnce, h.declared]
  exact Local.nodup_iff h.parameters h.numbered

end Routine.Holds

end DocScript
