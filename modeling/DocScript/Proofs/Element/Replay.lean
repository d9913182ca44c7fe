import Mathlib
import DocScript.Proofs.Element.Run
import DocScript.Proofs.Store.Rebuild

/-!
# Elements are rebuilt

A run for an element tree that ends well gives instructions that rebuild the tree, unless two
variables that are live together have the same name, or a child has an empty one. The variables of
one type never have the same name, so this takes two types.
-/

namespace DocScript

variable {ctx : Context} {e : Element}

theorem Plan.KeptBelow.of_holders {keep : Variable → Bool} {ps : List Plan}
    (each : ∀ p ∈ ps, (∀ v ∈ p.holders, keep v = true) → p.Kept keep)
    (all : ∀ v ∈ holdersBelow ps, keep v = true) : KeptBelow keep ps := by
  induction ps with
  | nil => trivial
  | cons p rest ih =>
    rw [holdersBelow] at all
    have first : ∀ v ∈ p.holders, keep v = true := fun v member => all v (List.mem_append_left _ member)
    exact ⟨first _ (holder_mem_holders p), each p List.mem_cons_self first,
      ih (fun q member => each q (List.mem_cons_of_mem _ member))
        fun v member => all v (List.mem_append_right _ member)⟩

theorem Plan.Kept.of_holders {keep : Variable → Bool} {p : Plan}
    (all : ∀ v ∈ p.holders, keep v = true) : p.Kept keep := by
  induction p using Plan.induction with
  | step p ih =>
    cases p with
    | bare c => trivial
    | full vs c ds simple enums ps =>
      rw [holders] at all
      exact KeptBelow.of_holders ih fun v member => all v (List.mem_append_right _ member)

namespace Compile

/-- Names that are not empty and differ for variables of different types are apart wherever the
pools hand them out. -/
theorem plan_apart {ns : Namespaces} {typeName : TypeId → String} {p : Plan}
    (planned : (plan ctx typeName e .empty).1 = some p)
    (types : ∀ v ∈ p.holders, ∀ x ∈ p.holders, v.type ≠ x.type → v.name ns ≠ x.name ns)
    (full : ∀ v ∈ p.holders, v.name ns ≠ "") : p.Apart (ns.spelling ctx.settings.policy) := by
  refine ⟨?_, Plan.Kept.of_holders fun v member => ?_⟩
  · have apart := distinct_plan ctx typeName e .empty [] (Stocks.sound_empty _)
      ⟨List.nodup_nil, nofun⟩ p planned
    refine Plan.Distinct.label p.holders (fun v hv x hx same => ?_) apart
      (fun _ member => member) nofun
    by_cases type : v.type = x.type
    · obtain ⟨t, m⟩ := v
      obtain ⟨t', n⟩ := x
      obtain rfl : t = t' := type
      rw [Variable.name_inj same]
    · exact (types v hv x hx type same).elim
  · exact decide_eq_true (full v member)

/-- A run that skips the element gives nothing. Any other run that ends well rebuilds the tree that
the element stands for if and only if the names of its variables are apart; for this it is enough
that names are not empty and that no two types share one. -/
theorem root_rebuilds_iff (plain : ctx.handlers = .none) {shared : Shared} {out : ElementOutput}
    {w : Workspace} (ran : root ctx (some e) ⟨shared, .empty⟩ = (.ok out, w)) :
    let ns := w.shared.namespaces
    let typeName := ns.typeName ctx.settings.policy
    (reference ctx typeName e = none → out = ⟨[], ""⟩) ∧
    ∀ tree, reference ctx typeName e = some tree →
      ∃ p, (plan ctx typeName e .empty).1 = some p ∧
        (out.Rebuilds tree ↔ p.Apart (ns.spelling ctx.settings.policy)) ∧
        ((∀ v ∈ p.holders, ∀ x ∈ p.holders, v.type ≠ x.type → v.name ns ≠ x.name ns) →
          (∀ v ∈ p.holders, v.name ns ≠ "") → out.Rebuilds tree) := by
  intro ns typeName
  have written := root_ok plain ran
  have trees := reference_eq ctx typeName e .empty
  cases planned : (plan ctx typeName e .empty).1 with
  | none =>
    rw [planned] at written trees
    refine ⟨fun _ => written, fun tree stands => ?_⟩
    rw [trees] at stands
    cases stands
  | some p =>
    rw [planned] at written trees
    refine ⟨fun skipped => ?_, fun tree stands => ⟨p, rfl, ?_⟩⟩
    · rw [trees] at skipped
      cases skipped
    · rw [trees] at stands
      obtain rfl := Option.some.inj stands
      rw [written]
      have exactly := rebuilds_iff_apart (ns.spelling ctx.settings.policy) p
      exact ⟨exactly, fun types full => exactly.mpr (plan_apart planned types full)⟩

def letterType (name : String) : TypeId := .plain "N" name

/-- Two types of elements without properties. The second is named like the second variable of the
first. -/
def letters : Registry :=
  ⟨.ofList (["A", "A1"].map fun name =>
      (letterType name, ⟨⟨letterType name, .regular, none, [], ""⟩, [], [], []⟩)),
    .empty, .empty, .empty, ["A", "A1"].map letterType, Schema.standardRawKind, .standard⟩

def letterContext : Context := ⟨.standard, letters, .none⟩

def nested : Element :=
  { Element.ofType (letterType "A") with
    children := [{ Element.ofType (letterType "A") with children := [.ofType (letterType "A1")] }] }

/-- The objects that the instructions for `nested` make. -/
def nestedThings : List Thing :=
  [⟨.construct "A" [] [], [.child 2]⟩, ⟨.construct "A" [] [], []⟩,
    ⟨.construct "A1" [] [], [.child 2]⟩]

def nestedTree : Tree :=
  .node (.construct "A" [] []) [.child (.node (.construct "A" [] [])
    [.child (.node (.construct "A1" [] []) [])])]

/-- The root has one child, and that is the innermost element. -/
theorem nestedThings_differ : ¬ Store.Unfolds nestedThings nestedTree 0 := by
  rintro ⟨record, found, entries⟩
  obtain ⟨_, rfl⟩ := Thing.mk.inj (Option.some.inj found)
  obtain ⟨x, others, same, ⟨i, rfl, child⟩, _⟩ := entries
  obtain ⟨first, _⟩ := List.cons.inj same
  obtain rfl := Entry.child.inj first
  obtain ⟨record, found, _⟩ := child
  obtain ⟨made, _⟩ := Thing.mk.inj (Option.some.inj found)
  exact absurd (Expr.construct.inj made).1 (by decide)

/-- The innermost element takes the name of the one around it, and is appended to itself. So the
object in the returned variable does not look like the tree, either. -/
theorem nested_not_rebuilt :
    ∃ out w, root letterContext (some nested) ⟨.start false, .empty⟩ = (.ok out, w) ∧
      ∃ tree, reference letterContext
          (w.shared.namespaces.typeName letterContext.settings.policy) nested = some tree ∧
        ¬ out.Rebuilds tree ∧
        ∃ s i, Store.run out.instructions .empty = some s ∧ s.env out.name = some i ∧
          ¬ Store.Unfolds s.things tree i := by
  obtain ⟨out, w, ran⟩ : ∃ out w,
      root letterContext (some nested) ⟨.start false, .empty⟩ = (.ok out, w) :=
    Step.exists_ok (by cbv)
  have table : (root letterContext (some nested) ⟨.start false, .empty⟩).2.shared.namespaces =
      ⟨.ofList [("N", "")]⟩ := by
    cbv
  have stands : reference letterContext (Namespaces.typeName .short ⟨.ofList [("N", "")]⟩) nested =
      some nestedTree := by
    cbv
  have objects : (root letterContext (some nested) ⟨.start false, .empty⟩).1.map (fun out =>
      (Store.run out.instructions .empty).map fun s => (s.things, s.env out.name)) =
        .ok (some (nestedThings, some 0)) := by
    cbv
  have clash : ((plan letterContext (Namespaces.typeName .short ⟨.ofList [("N", "")]⟩) nested
      .empty).1.all fun p => !decide (p.Distinct (·.name ⟨.ofList [("N", "")]⟩) [])) = true := by
    decide +kernel
  rw [ran] at table objects
  dsimp only at table
  rw [← table] at stands
  refine ⟨out, w, ran, nestedTree, stands, fun rebuilt => ?_, ?_⟩
  · obtain ⟨p, planned, exactly, _⟩ := (root_rebuilds_iff rfl ran).2 nestedTree stands
    have distinct := (exactly.mp rebuilt).distinct
    rw [table] at planned distinct
    rw [show letterContext.settings.policy = .short from rfl] at planned
    rw [planned] at clash
    have clash : ¬ p.Distinct (·.name ⟨.ofList [("N", "")]⟩) [] := by simpa using clash
    exact clash distinct
  · obtain ⟨s, ranAll, what⟩ := Option.map_eq_some_iff.mp (Except.ok.inj objects)
    obtain ⟨things, held⟩ := Prod.mk.inj what
    refine ⟨s, 0, ranAll, held, ?_⟩
    rw [things]
    exact nestedThings_differ

end Compile

end DocScript
