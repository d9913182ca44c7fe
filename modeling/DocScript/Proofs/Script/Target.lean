import DocScript.Compile.Script
import DocScript.Proofs.Element.Replay
import DocScript.Proofs.Graph.Fill
import DocScript.Proofs.Graph.Scope
import DocScript.Proofs.Graph.Traversal

/-!
# Names in the scripts of documents

A script for an element tree has one routine. A script for a part or a package has a routine that
walks the graph, and one for each part that is visited. None of them mentions a variable before it
is declared; which of them declare a name twice can be told from the types of their variables.
-/

namespace DocScript

open Instr Compile Walked

/-- The variables of the routines that build a target, routine by routine. -/
inductive Target.Locals (ctx : Context) (ns : Namespaces) : Target → List (List Local) → Prop
  | element {e : Element} {graph : Option Graph} :
      Locals ctx ns (.element e graph) [elementLocals ctx ns e]
  | part {uri : String} {graph : Graph} {part : Part} {walk : List Walked} {last : List String}
      (inside : graph.get? uri = some part)
      (explores : Explores graph [part.uri] (some part.uri) part.children walk last) :
      Locals ctx ns (.part uri graph) (partLocals ns [part] (found walk) ::
        (part :: found walk).map fun p => contentLocals ctx ns p.content)
  | package {package : Package} {graph : Option Graph} {walk : List Walked} {last : List String}
      (explores : Explores package.graph [] none package.children walk last) :
      Locals ctx ns (.package package graph) ([⟨package.type, packageName⟩] ::
        partLocals ns [] (found walk) ::
        (found walk).map fun p => contentLocals ctx ns p.content)

variable {ctx : Context} {cancelled : Bool} {s : Script}

namespace Compile

/-- A script for an element tree has one routine, which returns what the run for its root leaves. -/
theorem elementScript_ok {e : Element} (ran : elementScript ctx cancelled (some e) = .ok s) :
    ∃ out w, root ctx (some e) ⟨.start cancelled, .empty⟩ = (.ok out, w) ∧
      s = script ctx w.shared e.type.name [⟨"Build" ++ e.type.name, [], out.instructions,
        some (w.shared.namespaces.typeName ctx.settings.policy e.type),
        if out.name = "" then none else some (.var out.name), true⟩] := by
  unfold elementScript at ran
  obtain ⟨result, w, run⟩ := Step.exists_run (root ctx (some e)) ⟨.start cancelled, .empty⟩
  simp only [run] at ran
  obtain ⟨out, rfl, ran⟩ := except_bind_ok ran
  exact ⟨out, w, run, (Except.ok.inj ran).symm⟩

/-- A script for a part has the routine that walks the graph, and those that fill the parts. -/
theorem partScript_ok {graph : Graph} {uri : String}
    (ran : partScript ctx cancelled (some graph) uri = .ok s) :
    ∃ part entry w₁ fills w, graph.get? uri = some part ∧
      partEntry ctx graph part (.start (.start cancelled)) = (.ok entry, w₁) ∧
      helpers ctx w₁ = (.ok fills, w) ∧
      s = script ctx w.shared part.type.name (entry :: fills) := by
  unfold partScript at ran
  cases inside : graph.get? uri with
  | none =>
    simp only [inside] at ran
    cases ran
  | some part =>
    simp only [inside] at ran
    obtain ⟨result, w, run⟩ := Step.exists_run (partRoutines ctx graph (some part))
      (.start (.start cancelled))
    simp only [run] at ran
    obtain ⟨⟨entry, fills⟩, rfl, ran⟩ := except_bind_ok ran
    obtain ⟨_, w₁, entered, run⟩ := Step.bind_ok run
    obtain ⟨_, _, helped, run⟩ := Step.bind_ok run
    obtain ⟨same, rfl⟩ := Step.pure_ok run
    obtain ⟨rfl, rfl⟩ := Prod.mk.inj same
    exact ⟨part, entry, w₁, fills, w, rfl, entered, helped, (Except.ok.inj ran).symm⟩

/-- A script for a package begins with two routines, of which the second walks the graph. -/
theorem packageScript_ok {package : Package}
    (ran : packageScript ctx cancelled (some package) = .ok s) :
    ∃ entry parts w₁ fills w,
      packageEntries ctx package.graph package (.start (.start cancelled)) =
        (.ok (entry, parts), w₁) ∧
      helpers ctx w₁ = (.ok fills, w) ∧
      s = script ctx w.shared package.type.name (entry :: parts :: fills) := by
  unfold packageScript at ran
  obtain ⟨result, w, run⟩ := Step.exists_run (packageRoutines ctx package.graph (some package))
    (.start (.start cancelled))
  simp only [run] at ran
  obtain ⟨⟨entry, more⟩, rfl, ran⟩ := except_bind_ok ran
  obtain ⟨⟨_, parts⟩, w₁, entered, run⟩ := Step.bind_ok run
  obtain ⟨fills, _, helped, run⟩ := Step.bind_ok run
  obtain ⟨same, rfl⟩ := Step.pure_ok run
  obtain ⟨rfl, rfl⟩ := Prod.mk.inj same
  exact ⟨entry, parts, w₁, fills, w, entered, helped, (Except.ok.inj ran).symm⟩

theorem elementScript_holds (plain : ctx.handlers = .none) {e : Element}
    (ran : elementScript ctx cancelled (some e) = .ok s) :
    ∃ ns : Namespaces, s.imports = ns.imports ctx.settings.policy ∧
      List.Forall₂ Routine.Holds s.routines [elementLocals ctx ns e] := by
  obtain ⟨out, w, run, rfl⟩ := elementScript_ok ran
  obtain ⟨walks, mentions, declared, named⟩ := output_holds (root_ok plain run) []
  refine ⟨w.shared.namespaces, rfl, .cons ⟨?_, ?_, ?_, List.nodup_nil, numbered_elementLocals _ _ _⟩ .nil⟩
  · rw [Routine.walk, walks]
    exact mentions
  · intro x read
    rw [Routine.walk, walks]
    by_cases empty : out.name = ""
    · simp [empty, Expr.mentionsTarget] at read
    · simp only [empty, if_false, Expr.mentionsTarget, Expr.mentions, List.mem_singleton] at read
      rw [read]
      exact named empty
  · rw [Routine.walk, walks]
    exact declared

theorem partScript_holds (plain : ctx.handlers = .none) {graph : Graph} {uri : String}
    (ran : partScript ctx cancelled (some graph) uri = .ok s) :
    ∃ ns : Namespaces, s.imports = ns.imports ctx.settings.policy ∧
      ∃ locals, Target.Locals ctx ns (.part uri graph) locals ∧
        List.Forall₂ Routine.Holds s.routines locals := by
  obtain ⟨part, entry, w₁, fills, w, inside, entered, helped, rfl⟩ := partScript_ok ran
  obtain ⟨parameters, returns, walk, pass⟩ := partEntry_ok plain (Graph.get?_uri inside) entered
  obtain ⟨grown, filled⟩ := helpers_ok plain helped
  have filled := filled w.shared.namespaces (Namespaces.le_refl _)
  rw [pass.parts] at filled
  refine ⟨w.shared.namespaces, rfl, _, .part inside pass.explores, .cons ?_ filled⟩
  refine pass.holds (fun p member => ?_) parameters returns grown
  rw [List.mem_singleton.mp member]

theorem packageEntry_holds (typeName streamTypeName create : String) (t : TypeId) :
    (packageEntry typeName streamTypeName create).Holds [⟨t, packageName⟩] where
  mentions := by
    simp [packageEntry, Routine.walk, Routine.parameterNames, walkAll, walk, Scoped, Instr.reads,
      Instr.declares, invokeOn, Expr.mentions, Expr.mentionsAll, Expr.mentionsTarget]
  returns := nofun
  declared := rfl
  parameters := List.nodup_cons.mpr ⟨nofun, List.nodup_nil⟩
  numbered := List.pairwise_singleton _ _

theorem packageScript_holds (plain : ctx.handlers = .none) {package : Package} {graph : Option Graph}
    (ran : packageScript ctx cancelled (some package) = .ok s) :
    ∃ ns : Namespaces, s.imports = ns.imports ctx.settings.policy ∧
      ∃ locals, Target.Locals ctx ns (.package package graph) locals ∧
        List.Forall₂ Routine.Holds s.routines locals := by
  obtain ⟨entry, parts, w₁, fills, w, entered, helped, rfl⟩ := packageScript_ok ran
  obtain ⟨⟨typeName, streamTypeName, create, rfl⟩, parameters, returns, walk, pass⟩ :=
    packageEntries_ok plain entered
  obtain ⟨grown, filled⟩ := helpers_ok plain helped
  have filled := filled w.shared.namespaces (Namespaces.le_refl _)
  rw [pass.parts] at filled
  refine ⟨w.shared.namespaces, rfl, _, .package pass.explores, .cons ?_ (.cons ?_ filled)⟩
  · exact packageEntry_holds typeName streamTypeName create package.type
  · exact pass.holds nofun parameters returns grown

end Compile

/-- Each routine of a script has the variables of its part of the target. -/
theorem Target.script_holds (plain : ctx.handlers = .none) {target : Target}
    (ran : targetScript ctx cancelled target = .ok s) :
    ∃ ns : Namespaces, s.imports = ns.imports ctx.settings.policy ∧
      ∃ locals, target.Locals ctx ns locals ∧ List.Forall₂ Routine.Holds s.routines locals := by
  cases target with
  | element e graph =>
    obtain ⟨ns, imports, hold⟩ := elementScript_holds plain ran
    exact ⟨ns, imports, _, .element, hold⟩
  | part uri graph => exact partScript_holds plain ran
  | package package graph => exact packageScript_holds plain ran

/-- Whatever a routine of a script mentions is one of its parameters or declared before. -/
theorem Target.script_definedBeforeUse (plain : ctx.handlers = .none) {target : Target}
    (ran : targetScript ctx cancelled target = .ok s) : ∀ r ∈ s.routines, r.DefinedBeforeUse := by
  obtain ⟨ns, _, locals, _, hold⟩ := Target.script_holds plain ran
  intro r member
  obtain ⟨vs, _, holds⟩ := forall₂_mem_left hold r member
  exact holds.definedBeforeUse

theorem Target.ring_definedBeforeUse :
    ∃ s, targetScript ringContext false (.part "/a" ring) = .ok s ∧
      s.routines.length = 3 ∧ ∀ r ∈ s.routines, r.DefinedBeforeUse := by
  have ends : (targetScript ringContext false (.part "/a" ring)).map (·.routines.length) = .ok 3 := by
    cbv
  obtain ⟨s, ran, length⟩ := except_map_ok ends
  exact ⟨s, ran, length, Target.script_definedBeforeUse rfl ran⟩

/-- A routine of a script declares no name twice if and only if no two types of variables share a
name and no variable is named like a parameter. -/
theorem Target.script_declaresOnce_iff (plain : ctx.handlers = .none) {target : Target}
    (ran : targetScript ctx cancelled target = .ok s) :
    ∃ ns : Namespaces, s.imports = ns.imports ctx.settings.policy ∧
      ∃ locals, target.Locals ctx ns locals ∧
        List.Forall₂ (fun r vs => declaredIn r.walk = vs.map (·.name) ∧
          (r.DeclaresOnce ↔ Local.Apart r.parameterNames vs)) s.routines locals := by
  obtain ⟨ns, imports, locals, inventory, hold⟩ := Target.script_holds plain ran
  exact ⟨ns, imports, locals, inventory,
    hold.imp fun r vs holds => ⟨holds.declared, holds.declaresOnce_iff⟩⟩

/-- Of an element in an element in an element the second and the third variable share a name. -/
theorem Target.nested_declares_twice :
    ∃ s, targetScript letterContext false (.element nested none) = .ok s ∧
      (∃ r ∈ s.routines, ¬ r.DeclaresOnce) ∧
      ∃ ns : Namespaces, s.imports = ns.imports letterContext.settings.policy ∧
        ¬ Local.Apart [] (elementLocals letterContext ns nested) := by
  have ends : (targetScript letterContext false (.element nested none)).map
      (·.routines.map fun r => (r.parameterNames, declaredIn r.walk)) =
        .ok [([], ["a", "a1", "a1"])] := by
    cbv
  obtain ⟨s, ran, names⟩ := except_map_ok ends
  obtain ⟨ns, imports, locals, inventory, hold⟩ := Target.script_declaresOnce_iff rfl ran
  cases inventory
  obtain ⟨r, vs, ⟨_, exactly⟩, others, routines⟩ := List.forall₂_cons_right_iff.mp hold
  obtain rfl := List.forall₂_nil_right_iff.mp others
  rw [routines] at names
  obtain ⟨parameters, declared⟩ := Prod.mk.inj (List.cons.inj names).1
  have twice : ¬ r.DeclaresOnce := by
    rw [Routine.DeclaresOnce, parameters, declared]
    decide
  rw [parameters] at exactly
  exact ⟨s, ran, ⟨r, by simp [routines], twice⟩, ns, imports, fun apart => twice (exactly.mpr apart)⟩

end DocScript
