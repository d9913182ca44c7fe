import Mathlib
import DocScript.Proofs.Schema.Order
import DocScript.Proofs.Script.Agreement

/-!
# Runs and the order of declarations

The registries of schemas in different orders agree, so the script of a document does not depend on
the order of the declarations.
-/

namespace DocScript

namespace Compile

/-- Two schemas with the same declarations in any order both have a registry or both have none,
and if they have, every target is built alike under them, or fails alike. -/
theorem document_permuted {s s' : Schema} (h : s.Permuted s') :
    ((∃ fault, Registry.build s = .error fault) ↔ ∃ fault, Registry.build s' = .error fault) ∧
      ((∃ r, Registry.build s = .ok r) → ∀ (settings : Option Settings) (handlers : Handlers)
        (cancelled : Bool) (target : Target),
        document settings handlers cancelled ⟨s, target⟩ =
          document settings handlers cancelled ⟨s', target⟩) := by
  constructor
  · cases built : Registry.build s with
    | ok r =>
      obtain ⟨r', built'⟩ := Registry.build_permuted h built
      simp [built']
    | error fault =>
      cases built' : Registry.build s' with
      | ok r' =>
        obtain ⟨r, found⟩ := Registry.build_permuted h.symm built'
        rw [built] at found
        cases found
      | error fault' => simp
  · rintro ⟨r, built⟩ settings handlers cancelled target
    obtain ⟨r', built'⟩ := Registry.build_permuted h built
    have agrees : Context.Agrees ⟨settings.getD .standard, r, handlers⟩
        ⟨settings.getD .standard, r', handlers⟩ :=
      ⟨rfl, .refl _, Registry.build_agrees h built built'⟩
    unfold document
    rw [built, built']
    exact agrees.targetScript cancelled target

/-- Two types of elements with one name, of which one has a property of an enum. -/
def coded : Schema :=
  let enum : TypeId := .plain "N" "E"
  { Schema.empty with
    elements := [⟨.plain "N" "A", .regular, none, [⟨"p", .complex enum none⟩], ""⟩,
      ⟨.plain "M" "A", .regular, some "m", [], ""⟩]
    enums := [⟨.plain "M" "E", .empty⟩, ⟨enum, .ofList [("1", "One")]⟩]
    types := [.plain "N" "B", .plain "M" "B"] }

/-- The declarations of `coded` from the last to the first. -/
def codedBackwards : Schema :=
  { coded with
    elements := coded.elements.reverse, enums := coded.enums.reverse, types := coded.types.reverse }

def codedTarget : Target :=
  .element { Element.ofType (.plain "N" "A") with
    properties := .ofList [("p", .int 1)], children := [.ofType (.plain "M" "A")] } none

theorem coded_permuted : coded.Permuted codedBackwards ∧ (∃ r, Registry.build coded = .ok r) ∧
    (∃ r, Registry.build codedBackwards = .ok r) ∧
    ∃ script, document none .none false ⟨coded, codedTarget⟩ = .ok script ∧
      document none .none false ⟨codedBackwards, codedTarget⟩ = .ok script ∧
      script.imports = [⟨"M", "M"⟩, ⟨"N", ""⟩] := by
  have permuted : coded.Permuted codedBackwards :=
    ⟨(List.reverse_perm _).symm, (List.reverse_perm _).symm, .refl _, .refl _,
      (List.reverse_perm _).symm, rfl, rfl⟩
  have built : ∃ r, Registry.build coded = .ok r := by
    cbv
    exact ⟨_, rfl⟩
  have imports : (document none .none false ⟨coded, codedTarget⟩).map (·.imports) =
      .ok [⟨"M", "M"⟩, ⟨"N", ""⟩] := by
    cbv
  obtain ⟨faults, same⟩ := document_permuted permuted
  obtain ⟨script, ok, listed⟩ := except_map_ok imports
  refine ⟨permuted, built, ?_, script, ok, ?_, listed⟩
  · cases built' : Registry.build codedBackwards with
    | ok r => exact ⟨r, rfl⟩
    | error fault =>
      obtain ⟨r, built⟩ := built
      obtain ⟨_, failed⟩ := faults.mpr ⟨fault, built'⟩
      rw [built] at failed
      cases failed
  · rw [← same built none .none false codedTarget]
    exact ok

end Compile

end DocScript
