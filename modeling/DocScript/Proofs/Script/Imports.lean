import Mathlib
import DocScript.Proofs.Script.Writes

/-!
# Imports are complete

Every name of a type in a script is what the table at the end of its run makes of a type that the
target mentions, and the script imports the namespaces of just these types and of their arguments. A
skipped root is the only exception: its type is named in full, and nothing is imported for it.
-/

namespace DocScript

open Walked Compile

namespace Compile

open Mention Instr

variable {ctx : Context} {graph : Graph} {parent owner name : String} {parentType : TypeId} {part : Part}
  {e : Edge} {is : List Instr} {table : Namespaces} {typeName : TypeId → String} {ps : List Part}

theorem cover_links {hyperlinks : List Hyperlink} {externals : List ExternalLink} :
    Cover typeName (linkMentions hyperlinks externals)
      (typeNamesAll (linksCode typeName owner hyperlinks externals)) := by
  have uri {ms : List Mention} (listed : uriMentions ⊆ ms) :
      Cover typeName ms [typeName uriType, typeName uriKindType] := by
    intro text member
    simp only [List.mem_cons, List.not_mem_nil, or_false] at member
    rcases member with rfl | rfl
    · exact ⟨.library uriType, listed (by simp [uriMentions]), rfl⟩
    · exact ⟨.library uriKindType, listed (by simp [uriMentions]), rfl⟩
  have calls {ms : List Mention} {is : List Instr}
      (each : ∀ i ∈ is, Cover typeName ms i.typeNames) :
      Cover typeName ms (typeNamesAll (grouped is)) := by
    unfold grouped
    split
    · exact .nil
    · exact .all fun i member => by
        rcases List.mem_cons.mp member with rfl | later
        · exact .nil
        · exact each i later
  rw [linksCode, typeNamesAll_append]
  refine Cover.append (calls fun i member => ?_) (calls fun i member => ?_)
  · obtain ⟨h, inside, rfl⟩ := List.mem_map.mp member
    have listed : uriMentions ⊆ hyperlinks.flatMap fun _ => uriMentions := fun m mentioned =>
      List.mem_flatMap.mpr ⟨h, inside, mentioned⟩
    have own : Cover typeName (linkMentions hyperlinks externals)
        [typeName uriType, typeName uriKindType] := uri (List.subset_append_of_subset_left _ listed)
    simpa [hyperlinkCode, uriCode, invokeOn, Instr.typeNames, Expr.typeNames, Expr.typeNamesTarget,
      Expr.typeNamesAll, Expr.text, Expr.truth] using own
  · obtain ⟨x, inside, rfl⟩ := List.mem_map.mp member
    have listed : uriMentions ⊆ externals.flatMap fun _ => uriMentions := fun m mentioned =>
      List.mem_flatMap.mpr ⟨x, inside, mentioned⟩
    have own : Cover typeName (linkMentions hyperlinks externals)
        [typeName uriType, typeName uriKindType] := uri (List.subset_append_of_subset_right _ listed)
    simpa [externalCode, uriCode, invokeOn, Instr.typeNames, Expr.typeNames, Expr.typeNamesTarget,
      Expr.typeNamesAll, Expr.text, Expr.truth] using own

theorem cover_partCode :
    Cover typeName (visitMentions part)
      (typeNamesAll (partCode ctx typeName parent parentType e part name)) := by
  have creation : Cover typeName (visitMentions part)
      (typeNamesAll (creationCode ctx typeName parent parentType e part name)) := by
    intro text member
    refine ⟨.declared part.type, List.mem_cons_self, ?_⟩
    unfold creationCode at member
    cases operation : addOperation? ctx.registry parentType part.type with
    | none =>
      simp [operation, typeNamesAll, Instr.typeNames, Expr.typeNamesTarget, Expr.typeNames,
        Expr.typeNamesAll, Expr.text] at member
      exact member.symm
    | some op =>
      rw [operation] at member
      dsimp only at member
      split at member <;> split at member <;>
        simp [typeNamesAll, Instr.typeNames, invokeOn, Expr.typeNamesTarget, Expr.typeNames,
          Expr.typeNamesAll, Expr.text] at member <;> exact member.symm
  have links : Cover typeName (visitMentions part)
      (typeNamesAll (linksCode typeName name part.hyperlinks part.externals)) :=
    cover_links.mono (List.subset_cons_self _ _)
  rw [partCode, typeNamesAll_append, typeNamesAll_append, typeNamesAll]
  exact (creation.append (Cover.append .nil links)).append .nil

theorem cover_writes {es : List Edge}
    (writes : Writes ctx graph typeName parent parentType es ps is) :
    Cover typeName (ps.flatMap visitMentions) (typeNamesAll is) := by
  induction writes with
  | done => exact .nil
  | again _ _ _ ih => exact Cover.append .nil ih
  | first _ _ _ _ below others =>
    rw [List.cons_append, List.flatMap_cons, List.flatMap_append, typeNamesAll_append,
      typeNamesAll_append]
    refine Cover.append (Cover.append ?_ (below.mono fun m member => ?_)) (others.mono fun m member => ?_)
    · exact cover_partCode.mono (List.subset_append_left _ _)
    · exact List.mem_append_right _ (List.mem_append_left _ member)
    · exact List.mem_append_right _ (List.mem_append_right _ member)

theorem cover_content {body : List Instr} (writes : WritesContent ctx table part body) :
    Cover (table.typeName ctx.settings.policy) (contentMentions ctx part) (typeNamesAll body) := by
  unfold contentMentions
  cases writes with
  | none content => exact .nil
  | binary content =>
    rw [content]
    intro text member
    simp [feedCode, typeNamesAll, Instr.typeNames, invokeOn, Expr.typeNamesTarget, Expr.typeNames,
      Expr.typeNamesAll, Expr.text, Expr.truth] at member
    rcases member with rfl | rfl | rfl | rfl
    · exact ⟨.word "string", by simp, rfl⟩
    · exact ⟨.library streamType, by simp, rfl⟩
    · exact ⟨.library memoryStreamType, by simp, rfl⟩
    · exact ⟨.library convertType, by simp, rfl⟩
  | @root e out assignment content tree assigned =>
    have silent : typeNamesAll assignment = [] := by
      rcases rootAssignment_ok assigned with rfl | ⟨_, property, rfl⟩ <;> rfl
    rw [content, typeNamesAll_append, silent, List.append_nil]
    exact cover_written _ _ tree

theorem cover_routine {r : Routine} (writes : WritesRoutine ctx table part r) :
    Cover (table.typeName ctx.settings.policy) (.declared part.type :: contentMentions ctx part)
      r.typeNames := by
  cases writes with
  | made name content =>
    have parameter : Cover (table.typeName ctx.settings.policy)
        (.declared part.type :: contentMentions ctx part)
        [table.typeName ctx.settings.policy part.type] := by
      intro text member
      exact ⟨.declared part.type, List.mem_cons_self, (List.mem_singleton.mp member).symm⟩
    have body := (cover_content content).mono (List.subset_cons_self (.declared part.type) _)
    exact ((parameter.append body).append .nil).append .nil

theorem cover_entryCode {routine : String} {below : List Instr}
    (inner : Cover typeName (ps.flatMap visitMentions) (typeNamesAll below)) :
    Cover typeName ((part :: ps).flatMap visitMentions)
      (entryCode typeName part routine below).typeNames := by
  have own : visitMentions part ⊆ (part :: ps).flatMap visitMentions := by
    rw [List.flatMap_cons]
    exact List.subset_append_left _ _
  have parameter : Cover typeName ((part :: ps).flatMap visitMentions) [typeName part.type] := by
    intro text member
    exact ⟨.declared part.type, own List.mem_cons_self, (List.mem_singleton.mp member).symm⟩
  have links : Cover typeName ((part :: ps).flatMap visitMentions)
      (typeNamesAll (linksCode typeName partName part.hyperlinks part.externals)) :=
    cover_links.mono fun m mentioned => own (List.mem_cons_of_mem _ mentioned)
  have later : Cover typeName ((part :: ps).flatMap visitMentions) (typeNamesAll below) := by
    rw [List.flatMap_cons]
    exact inner.mono (List.subset_append_right _ _)
  have gap : typeNamesAll (if part.children.isEmpty then [] else [.blank]) = [] := by
    split <;> rfl
  simp only [Routine.typeNames, entryCode, List.map_cons, List.map_nil, List.cons_append,
    typeNamesAll, typeNamesAll_append, gap, List.append_nil, Option.toList_none,
    Expr.typeNamesTarget]
  exact parameter.append (links.append later)

end Compile

open Mention

/-- What the routines for a target say, with the names of a table. Which names the variables have is
left open. -/
inductive Target.Written (ctx : Context) (ns : Namespaces) :
    Target → List Part → List Routine → Prop
  | element {e : Element} {graph : Option Graph} {out : ElementOutput}
      (tree : Compile.Written ctx ns e out) :
      Written ctx ns (.element e graph) [] [⟨"Build" ++ e.type.name, [], out.instructions,
        some (ns.typeName ctx.settings.policy e.type),
        if out.name = "" then none else some (.var out.name), true⟩]
  | part {uri : String} {graph : Graph} {part : Part} {walk : List Walked} {last : List String}
      {routine : String} {below : List Instr} {fills : List Routine}
      (inside : graph.get? uri = some part)
      (explores : Explores graph [part.uri] (some part.uri) part.children walk last)
      (edges : Writes ctx graph (ns.typeName ctx.settings.policy) partName part.type part.children
        (found walk) below)
      (filled : List.Forall₂ (WritesRoutine ctx ns) (part :: found walk) fills) :
      Written ctx ns (.part uri graph) (part :: found walk)
        (entryCode (ns.typeName ctx.settings.policy) part routine below :: fills)
  | package {package : Package} {graph : Option Graph} {walk : List Walked} {last : List String}
      {below : List Instr} {fills : List Routine}
      (explores : Explores package.graph [] none package.children walk last)
      (edges : Writes ctx package.graph (ns.typeName ctx.settings.policy) packageName package.type
        package.children (found walk) below)
      (filled : List.Forall₂ (WritesRoutine ctx ns) (found walk) fills) :
      Written ctx ns (.package package graph) (found walk)
        (packageCode ctx (ns.typeName ctx.settings.policy) package
          :: partsCode (ns.typeName ctx.settings.policy) package below :: fills)

/-- The types that a script names, in the order in which they are registered. -/
def Target.mentions (ctx : Context) : Target → List Part → List Mention
  | .element e _, _ => elementMentions ctx e
  | .part _ _, ps => ps.flatMap visitMentions ++ ps.flatMap (contentMentions ctx)
  | .package p _, ps =>
    .library streamType :: .declared p.type :: ps.flatMap visitMentions
      ++ linkMentions p.hyperlinks p.externals ++ ps.flatMap (contentMentions ctx)

/-- The text is the full name of the type of a root that was skipped, as what a routine returns. -/
def Target.Skipped (ctx : Context) (target : Target) (r : Routine) (text : String) : Prop :=
  ∃ e graph, target = .element e graph ∧
    skips ctx.settings (ctx.registry.element? e.type) e = true ∧ r.returnType = some text ∧
    text = e.type.fullName

namespace Target

variable {ctx : Context} {ns : Namespaces} {target : Target} {ps : List Part} {rs : List Routine}
  {cancelled : Bool} {s : Script}

theorem cover_fills {ms : List Mention} {fills : List Routine}
    (filled : List.Forall₂ (WritesRoutine ctx ns) ps fills)
    (own : ∀ p ∈ ps, .declared p.type ∈ ms) (content : ∀ p ∈ ps, contentMentions ctx p ⊆ ms) :
    ∀ r ∈ fills, Cover (ns.typeName ctx.settings.policy) ms r.typeNames := by
  intro r member
  obtain ⟨p, visited, writes⟩ := forall₂_mem_right filled r member
  refine (cover_routine writes).mono fun m mentioned => ?_
  rcases List.mem_cons.mp mentioned with rfl | inside
  · exact own p visited
  · exact content p visited inside

theorem declared_mem_visits {p : Part} (member : p ∈ ps) :
    .declared p.type ∈ ps.flatMap visitMentions :=
  List.mem_flatMap.mpr ⟨p, member, List.mem_cons_self⟩

theorem Written.cover (written : target.Written ctx ns ps rs)
    (spaces : ns = .performAll ctx.registry .empty (registrationsOf (target.mentions ctx ps))) :
    ∀ r ∈ rs, ∀ text ∈ r.typeNames,
      (∃ m ∈ target.mentions ctx ps, m.text (ns.typeName ctx.settings.policy) = text) ∨
        target.Skipped ctx r text := by
  cases written with
  | @element e graph out tree =>
    intro r member text stands
    rw [List.mem_singleton.mp member] at stands ⊢
    have returned : Expr.typeNamesTarget (if out.name = "" then none else some (.var out.name)) = [] := by
      split <;> rfl
    simp only [Routine.typeNames, List.map_nil, List.nil_append, Option.toList_some, returned,
      List.append_nil, List.mem_append, List.mem_singleton] at stands
    rcases stands with inside | rfl
    · exact Or.inl (cover_written e out tree text inside)
    · cases tree with
      | skipped known passed =>
        have empty : ns = .empty := by
          rw [spaces, mentions, elementMentions_of_skips known passed]
          rfl
        refine Or.inr ⟨e, graph, rfl, known ▸ passed, rfl, ?_⟩
        rw [empty]
        cases ctx.settings.policy <;> rfl
      | bare known kept only name again =>
        refine Or.inl ⟨.declared e.type, ?_, rfl⟩
        rw [mentions, elementMentions_eq]
        simp [known, kept, only]
      | full known kept more objects owns name again below =>
        refine Or.inl ⟨.declared e.type, ?_, rfl⟩
        rw [mentions, elementMentions_eq]
        simp [known, kept, more]
  | @part uri graph part walk last routine below fills inside explores edges filled =>
    intro r member text stands
    rw [mentions]
    refine Or.inl ?_
    rcases List.mem_cons.mp member with rfl | later
    · have inner := cover_writes edges
      exact (cover_entryCode inner).mono (List.subset_append_left _ _) text stands
    · refine cover_fills filled (fun p visited => ?_) (fun p visited => ?_) r later text stands
      · exact List.mem_append_left _ (declared_mem_visits visited)
      · exact fun m mentioned => List.mem_append_right _ (List.mem_flatMap.mpr ⟨p, visited, mentioned⟩)
  | @package package graph walk last below fills explores edges filled =>
    have stream : .library streamType ∈ Target.mentions ctx (.package package graph) (found walk) :=
      List.mem_cons_self
    have own : .declared package.type ∈ Target.mentions ctx (.package package graph) (found walk) :=
      List.mem_cons_of_mem _ List.mem_cons_self
    have visits : (found walk).flatMap visitMentions ⊆
        Target.mentions ctx (.package package graph) (found walk) := fun m member =>
      List.mem_append_left _ (List.mem_append_left _ (by simp [member]))
    have links : linkMentions package.hyperlinks package.externals ⊆
        Target.mentions ctx (.package package graph) (found walk) := fun m member =>
      List.mem_append_left _ (List.mem_append_right _ member)
    intro r member text stands
    refine Or.inl ?_
    rcases List.mem_cons.mp member with rfl | member
    · simp [Routine.typeNames, packageCode, packageEntry, Instr.typeNamesAll, Instr.typeNames,
        Instr.invokeOn, Expr.typeNamesTarget, Expr.typeNames, Expr.typeNamesAll] at stands
      rcases stands with rfl | rfl
      · exact ⟨_, stream, rfl⟩
      · exact ⟨_, own, rfl⟩
    · rcases List.mem_cons.mp member with rfl | later
      · simp only [Routine.typeNames, partsCode, List.map_cons, List.map_nil, Option.toList_none,
          Expr.typeNamesTarget, List.append_nil, List.mem_append, List.mem_singleton,
          Instr.typeNamesAll_append] at stands
        rcases stands with rfl | inner | linked
        · exact ⟨_, own, rfl⟩
        · exact (cover_writes edges).mono visits text inner
        · exact cover_links.mono links text linked
      · refine cover_fills filled (fun p visited => ?_) (fun p visited => ?_) r later text stands
        · exact visits (declared_mem_visits visited)
        · exact fun m mentioned =>
            List.mem_append_right _ (List.mem_flatMap.mpr ⟨p, visited, mentioned⟩)

theorem elementScript_written (plain : ctx.handlers = .none) {e : Element} {graph : Option Graph}
    (ran : elementScript ctx cancelled (some e) = .ok s) :
    ∃ ns : Namespaces, Written ctx ns (.element e graph) [] s.routines ∧
      ns = .performAll ctx.registry .empty
        (registrationsOf (Target.mentions ctx (.element e graph) [])) ∧
      s.imports = ns.imports ctx.settings.policy := by
  obtain ⟨out, w, run, rfl⟩ := elementScript_ok ran
  have tree := element_writes plain w.shared.namespaces e [] _ out w run (Namespaces.le_refl _)
  exact ⟨w.shared.namespaces, .element tree, performs_element plain e [] _ out w run, rfl⟩

theorem partScript_written (plain : ctx.handlers = .none) {graph : Graph} {uri : String}
    (ran : partScript ctx cancelled (some graph) uri = .ok s) :
    ∃ (ns : Namespaces) (ps : List Part), Written ctx ns (.part uri graph) ps s.routines ∧
      ns = .performAll ctx.registry .empty
        (registrationsOf (Target.mentions ctx (.part uri graph) ps)) ∧
      s.imports = ns.imports ctx.settings.policy := by
  obtain ⟨part, entry, w₁, fills, w, inside, entered, helped, rfl⟩ := partScript_ok ran
  obtain ⟨_, _, walk, pass⟩ := partEntry_ok plain (Graph.get?_uri inside) entered
  obtain ⟨ps, parts, spaces, writes⟩ := partEntry_finds plain (Graph.get?_uri inside) entered
  obtain rfl : ps = found walk := by
    have all := pass.parts
    rw [parts] at all
    exact (List.cons.inj all).2
  have known : ∀ p ∈ w₁.parts, w₁.shared.namespaces.contains p.type.space = true := by
    intro p visited
    rw [parts] at visited
    rw [spaces]
    exact contains_of_mention (declared_mem_visits visited) (self_mem_types p.type)
  obtain ⟨last, filled⟩ := helpers_write plain known helped
  obtain ⟨routine, below, edges, rfl⟩ := writes w.shared.namespaces (helpers_ok plain helped).1
  rw [parts] at filled last
  refine ⟨w.shared.namespaces, _, .part inside pass.explores edges filled, ?_, rfl⟩
  rw [last, spaces, mentions, registrationsOf_append, Namespaces.performAll_append]
  rfl

theorem packageScript_written (plain : ctx.handlers = .none) {package : Package}
    {graph : Option Graph} (ran : packageScript ctx cancelled (some package) = .ok s) :
    ∃ (ns : Namespaces) (ps : List Part), Written ctx ns (.package package graph) ps s.routines ∧
      ns = .performAll ctx.registry .empty
        (registrationsOf (Target.mentions ctx (.package package graph) ps)) ∧
      s.imports = ns.imports ctx.settings.policy := by
  obtain ⟨entry, create, w₁, fills, w, entered, helped, rfl⟩ := packageScript_ok ran
  obtain ⟨_, _, _, walk, pass⟩ := packageEntries_ok plain entered
  obtain ⟨ps, parts, spaces, writes⟩ := packageEntries_find plain entered
  obtain rfl : ps = found walk := parts.symm.trans pass.parts
  have known : ∀ p ∈ w₁.parts, w₁.shared.namespaces.contains p.type.space = true := by
    intro p visited
    rw [parts] at visited
    rw [spaces]
    refine contains_of_mention (m := .declared p.type) ?_ (self_mem_types p.type)
    exact List.mem_append_left _ (by simp [declared_mem_visits visited])
  obtain ⟨last, filled⟩ := helpers_write plain known helped
  obtain ⟨below, edges, rfl, rfl⟩ := writes w.shared.namespaces (helpers_ok plain helped).1
  rw [parts] at filled last
  rw [spaces, ← Namespaces.performAll_append, ← registrationsOf_append] at last
  exact ⟨w.shared.namespaces, _, .package pass.explores edges filled, last, rfl⟩

theorem script_written (plain : ctx.handlers = .none)
    (ran : targetScript ctx cancelled target = .ok s) :
    ∃ (ns : Namespaces) (ps : List Part), target.Written ctx ns ps s.routines ∧
      ns = .performAll ctx.registry .empty (registrationsOf (target.mentions ctx ps)) ∧
      s.imports = ns.imports ctx.settings.policy := by
  cases target with
  | element e graph =>
    obtain ⟨ns, written⟩ := elementScript_written plain ran
    exact ⟨ns, [], written⟩
  | part uri graph => exact partScript_written plain ran
  | package package graph => exact packageScript_written plain ran

/-- A script without handlers says what its target says, with the names of the table at the end of
its run. Every text for a type is the name there of a type that the target mentions, unless its root
was skipped; and the namespaces of these types and of their arguments are just the ones imported. -/
theorem script_imports_complete (plain : ctx.handlers = .none)
    (ran : targetScript ctx cancelled target = .ok s) :
    ∃ (ns : Namespaces) (ps : List Part), target.Written ctx ns ps s.routines ∧
      ns = .performAll ctx.registry .empty (registrationsOf (target.mentions ctx ps)) ∧
      s.imports = ns.imports ctx.settings.policy ∧
      (∀ space, (∃ i ∈ s.imports, i.space = space) ↔
        ∃ m ∈ target.mentions ctx ps, ∃ t ∈ m.types, t.space = space) ∧
      ∀ r ∈ s.routines, ∀ text ∈ r.typeNames,
        (∃ m ∈ target.mentions ctx ps, m.text (ns.typeName ctx.settings.policy) = text) ∨
          target.Skipped ctx r text := by
  obtain ⟨ns, ps, written, spaces, imports⟩ := script_written plain ran
  refine ⟨ns, ps, written, spaces, imports, fun space => ?_, written.cover spaces⟩
  have start : Namespaces.empty.Holds [] := rfl
  have holds : ns.Holds ([] ++ (registrationsOf (target.mentions ctx ps)).flatMap
      Registration.spaces) := by
    rw [spaces]
    exact Namespaces.holds_performAll start _
  rw [List.nil_append] at holds
  rw [← mem_registrationsOf, ← holds.contains_iff, imports]
  constructor
  · rintro ⟨i, listed, rfl⟩
    exact OrderedMap.contains_iff.mpr ⟨_, Namespaces.mem_imports.mp listed⟩
  · intro known
    obtain ⟨aliasName, found⟩ := OrderedMap.contains_iff.mp known
    exact ⟨⟨space, aliasName⟩, Namespaces.mem_imports.mpr found, rfl⟩

end Target

/-- A type of elements with a property whose values are lists. -/
def shelves : Registry :=
  let type : TypeId := .plain "N" "A"
  let list : TypeId := ⟨"G", "List", [.plain "M" "B"]⟩
  ⟨.ofList [(type, ⟨⟨type, .regular, none, [⟨"p", .complex list none⟩], ""⟩, [], [("p", list)], []⟩)],
    .empty, .empty, .empty, [type, list, .plain "M" "B"], Schema.standardRawKind, .standard⟩

def shelvesContext : Context := ⟨.standard, shelves, .none⟩

def shelf : Element :=
  { Element.ofType (.plain "N" "A") with properties := .ofList [("p", .str "x")] }

/-- The namespace of the argument of the list is imported too. -/
theorem Target.shelf_imports :
    ∃ s, targetScript shelvesContext false (.element shelf none) = .ok s ∧
      s.imports.map (·.space) = ["G", "M", "N"] ∧
      ∃ (ns : Namespaces) (ps : List Part),
        Target.Written shelvesContext ns (.element shelf none) ps s.routines ∧
        ∀ r ∈ s.routines, ∀ text ∈ r.typeNames,
          (∃ m ∈ Target.mentions shelvesContext (.element shelf none) ps,
            m.text (ns.typeName .short) = text) ∨
          Target.Skipped shelvesContext (.element shelf none) r text := by
  have ends : (targetScript shelvesContext false (.element shelf none)).map
      (·.imports.map (·.space)) = .ok ["G", "M", "N"] := by
    cbv
  obtain ⟨s, ran, listed⟩ := except_map_ok ends
  obtain ⟨ns, ps, written, _, _, _, named⟩ := Target.script_imports_complete rfl ran
  exact ⟨s, ran, listed, ns, ps, written, named⟩

end DocScript
