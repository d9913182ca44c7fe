import DocScript.Proofs.Element.Registers
import DocScript.Proofs.Naming.Clash
import DocScript.Proofs.Script.Target

/-!
# What a run registers

The work on a graph only registers, like that on elements. So the imports of every script are those
of a table that some registrations make, and two types are written alike in it only where these
give no alias.
-/

namespace DocScript

open Step

/-! ### Graphs -/

namespace Visit

variable {α : Type} {ctx : Context} {t : TypeId}

abbrev Extends (ctx : Context) (m : Visit α) : Prop :=
  Step.Extends (·.shared.namespaces) ctx.registry m

theorem extends_onNamespaces {m : Step Namespaces α} (h : Step.Extends id ctx.registry m) :
    Visit.Extends ctx (onNamespaces m) := fun w => h w.shared.namespaces

theorem extends_register : Visit.Extends ctx (register ctx t) := fun _ => .register _ _ t

theorem extends_addPlain {space : String} (member : space ∈ plainSpaces) :
    Visit.Extends ctx (addPlain space) := fun _ => .addPlain _ _ member

theorem extends_typeName : Visit.Extends ctx (typeName ctx t) := extends_read _

theorem extends_checkCancelled : Visit.Extends ctx checkCancelled := by
  apply extends_of_same
  intro w
  unfold checkCancelled
  split <;> rfl

theorem extends_nextName : Visit.Extends ctx (nextName t) := extends_of_same fun _ => rfl

theorem extends_enter {b : Blueprint} : Visit.Extends ctx (enter b) := by
  apply extends_of_same
  intro w
  unfold enter
  split <;> rfl

theorem extends_buildAlone {m : Build α} (h : Build.Extends ctx m) :
    Visit.Extends ctx (buildAlone m) := fun w => h ⟨w.shared, .empty⟩

end Visit

namespace Compile

section Graphs

open Visit

variable {ctx : Context} {graph : Graph} {parent owner name : String} {parentType : TypeId}
  {part : Part}

theorem extends_uriExpr (policy : NamePolicy) (schema : Registry) (uri : String) :
    Step.Extends id schema (uriExpr policy uri) := by
  have added : Step.Extends id schema (change fun ns : Namespaces => ns.addPlain uriType.space) :=
    fun ns => .addPlain schema ns (by decide)
  unfold uriExpr
  refine added.bind fun _ => ?_
  split
  · exact extends_fail _
  · exact (extends_read _).bind fun _ => (extends_read _).bind fun _ => extends_pure _

theorem extends_group {α : Type} {schema : Registry} {f : α → Step Namespaces (List Instr)}
    (each : ∀ a, Step.Extends id schema (f a)) (links : List α) :
    Step.Extends id schema (group f links) := by
  unfold group
  split
  · exact extends_pure []
  · exact (extends_collect each links).bind fun _ => extends_pure _

theorem extends_links {hyperlinks : List Hyperlink} {externals : List ExternalLink} :
    Visit.Extends ctx (links ctx owner hyperlinks externals) := by
  apply extends_onNamespaces
  unfold relationships
  refine (extends_group (fun h => ?_) hyperlinks).bind fun _ =>
    (extends_group (fun l => ?_) externals).bind fun _ => extends_pure _
  · exact (extends_uriExpr _ _ h.uri).bind fun _ => extends_pure _
  · exact (extends_uriExpr _ _ l.uri).bind fun _ => extends_pure _

theorem extends_partCreation {e : Edge} :
    Visit.Extends ctx (partCreation ctx parent parentType e part name) := by
  unfold partCreation
  refine extends_typeName.bind fun _ => ?_
  dsimp only
  split <;> exact extends_pure _

theorem extends_newPart {e : Edge} :
    Visit.Extends ctx (newPart ctx parent parentType e part) := by
  unfold newPart
  refine extends_register.bind fun _ => extends_nextName.bind fun name => ?_
  refine extends_partCreation.bind fun creation => extends_enter.bind fun _ => ?_
  exact extends_links.bind fun _ => extends_pure _

theorem extends_edge (plain : ctx.handlers = .none) (fuel : Nat) : ∀ parent parentType e,
    Visit.Extends ctx (edge ctx graph fuel parent parentType e) := by
  induction fuel with
  | zero =>
    intro parent parentType e
    rw [edge]
    exact extends_pure []
  | succ fuel ih =>
    intro parent parentType e
    rw [edge]
    refine extends_checkCancelled.bind fun _ => ?_
    split
    · exact extends_fail _
    · rw [handledEdge_eq plain, Step.pure_then]
      refine (extends_read _).bind fun known => ?_
      split
      · exact extends_pure _
      · refine extends_newPart.bind fun made => ?_
        exact (extends_collect (ih _ _) _).bind fun _ => extends_pure _

theorem extends_payloadFeed (bytes : List UInt8) : Visit.Extends ctx (payloadFeed ctx bytes) := by
  have converted : convertType.space ∈ plainSpaces := by decide
  have streamed : streamType.space ∈ plainSpaces := by decide
  unfold payloadFeed
  refine (extends_addPlain converted).bind fun _ => (extends_addPlain streamed).bind fun _ => ?_
  exact extends_typeName.bind fun _ => extends_typeName.bind fun _ =>
    extends_typeName.bind fun _ => extends_pure _

theorem extends_content (plain : ctx.handlers = .none) :
    Visit.Extends ctx (content ctx part) := by
  unfold content
  split
  · exact extends_pure _
  · exact extends_payloadFeed _
  · refine (extends_buildAlone (extends_element plain _ _)).bind fun output => ?_
    split
    · exact extends_pure _
    · exact extends_fail _

theorem extends_helper (plain : ctx.handlers = .none) (b : Blueprint) :
    Visit.Extends ctx (helper ctx b) := by
  have filled : Visit.Extends ctx (fillRoutine ctx b) :=
    (extends_content plain).bind fun _ => extends_typeName.bind fun _ => extends_pure _
  unfold helper
  rw [handledRoutine_eq plain, Step.pure_then]
  exact extends_checkCancelled.bind fun _ => filled.bind fun _ => extends_pure _

theorem extends_helpers (plain : ctx.handlers = .none) : Visit.Extends ctx (helpers ctx) :=
  (extends_read _).bind fun _ => extends_collect (extends_helper plain) _

theorem extends_partEntry (plain : ctx.handlers = .none) :
    Visit.Extends ctx (partEntry ctx graph part) := by
  unfold partEntry
  refine extends_checkCancelled.bind fun _ => extends_register.bind fun _ => ?_
  refine extends_nextName.bind fun _ => extends_enter.bind fun _ => extends_links.bind fun _ => ?_
  refine (extends_collect (extends_edge plain _ _ _) _).bind fun _ => ?_
  exact extends_typeName.bind fun _ => extends_pure _

theorem extends_packageEntries (plain : ctx.handlers = .none) (package : Package) :
    Visit.Extends ctx (packageEntries ctx graph package) := by
  have streamed : streamType.space ∈ plainSpaces := by decide
  unfold packageEntries
  refine extends_checkCancelled.bind fun _ => (extends_addPlain streamed).bind fun _ => ?_
  refine extends_register.bind fun _ => extends_typeName.bind fun _ => ?_
  refine extends_typeName.bind fun _ => (extends_collect (extends_edge plain _ _ _) _).bind fun _ => ?_
  exact extends_links.bind fun _ => extends_pure _

end Graphs

end Compile

/-! ### Scripts -/

namespace Compile

variable {ctx : Context} {cancelled : Bool} {s : Script}

theorem elementScript_reaches (plain : ctx.handlers = .none) {e : Element}
    (ran : elementScript ctx cancelled (some e) = .ok s) :
    ∃ ns : Namespaces, Namespaces.Reaches ctx.registry .empty ns ∧
      s.imports = ns.imports ctx.settings.policy := by
  obtain ⟨out, w, run, rfl⟩ := elementScript_ok ran
  exact ⟨w.shared.namespaces, (extends_element plain e []).reaches run, rfl⟩

theorem partScript_reaches (plain : ctx.handlers = .none) {graph : Graph} {uri : String}
    (ran : partScript ctx cancelled (some graph) uri = .ok s) :
    ∃ ns : Namespaces, Namespaces.Reaches ctx.registry .empty ns ∧
      s.imports = ns.imports ctx.settings.policy := by
  obtain ⟨part, entry, w₁, fills, w, _, entered, helped, rfl⟩ := partScript_ok ran
  have walked := (extends_partEntry plain).reaches entered
  exact ⟨w.shared.namespaces, walked.trans ((extends_helpers plain).reaches helped), rfl⟩

theorem packageScript_reaches (plain : ctx.handlers = .none) {package : Package}
    (ran : packageScript ctx cancelled (some package) = .ok s) :
    ∃ ns : Namespaces, Namespaces.Reaches ctx.registry .empty ns ∧
      s.imports = ns.imports ctx.settings.policy := by
  obtain ⟨entry, parts, w₁, fills, w, entered, helped, rfl⟩ := packageScript_ok ran
  have walked := (extends_packageEntries plain package).reaches entered
  exact ⟨w.shared.namespaces, walked.trans ((extends_helpers plain).reaches helped), rfl⟩

end Compile

open Compile

variable {ctx : Context} {cancelled : Bool} {s : Script}

/-- The imports of a script are those of a table that was reached from the empty one. -/
theorem Target.script_reaches (plain : ctx.handlers = .none) {target : Target}
    (ran : targetScript ctx cancelled target = .ok s) :
    ∃ ns : Namespaces, Namespaces.Reaches ctx.registry .empty ns ∧
      s.imports = ns.imports ctx.settings.policy := by
  cases target with
  | element e graph => exact elementScript_reaches plain ran
  | part uri graph => exact partScript_reaches plain ran
  | package package graph => exact packageScript_reaches plain ran

/-- Two types whose namespaces a run has registered are written alike if and only if they have one
name, and one namespace or none of them an alias. If the schema knows both in two namespaces, this
needs one that was added on its own or has nothing to make an alias of. Names have no points. -/
theorem Target.script_typeName_eq_iff (plain : ctx.handlers = .none)
    (short : ctx.settings.policy = .short) {target : Target}
    (ran : targetScript ctx cancelled target = .ok s) :
    ∃ ns : Namespaces, Namespaces.Reaches ctx.registry .empty ns ∧ s.imports = ns.imports .short ∧
      ∀ t u : TypeId, ns.contains t.space = true → ns.contains u.space = true →
        '.' ∉ t.name.toList → '.' ∉ u.name.toList →
        (ns.typeName .short t = ns.typeName .short u ↔
          t.name = u.name ∧
            (t.space = u.space ∨ ns.aliasOf t.space = "" ∧ ns.aliasOf u.space = "")) ∧
        (t.space ≠ u.space → ns.typeName .short t = ns.typeName .short u →
          ctx.registry.hasName t.space t.name = true → ctx.registry.hasName u.space u.name = true →
          Namespaces.Unguarded plainSpaces t.space ∨ Namespaces.Unguarded plainSpaces u.space) := by
  obtain ⟨ns, reached, imports⟩ := Target.script_reaches plain ran
  refine ⟨ns, reached, short ▸ imports, fun t u knownt knownu ht hu => ?_⟩
  obtain ⟨calls, listed, rfl⟩ := reached
  have apart : (Namespaces.performAll ctx.registry .empty calls).AliasesApart :=
    Namespaces.aliasesApart_performAll Namespaces.aliasesApart_empty calls
  have guarded : Namespaces.Guarded ctx.registry plainSpaces
      (Namespaces.performAll ctx.registry .empty calls) :=
    Namespaces.guarded_performAll Namespaces.guarded_empty calls listed
  have alike := Namespaces.typeName_eq_iff apart knownt knownu ht hu
  refine ⟨alike, fun different same own shared => ?_⟩
  obtain ⟨names, spaces | ⟨baret, bareu⟩⟩ := alike.mp same
  · exact (different spaces).elim
  · rw [← names] at shared
    exact guarded _ _ _ different (Namespaces.bare_of_aliasOf knownt baret)
      (Namespaces.bare_of_aliasOf knownu bareu) own shared

/-- A type of elements that is called like the type of dates, and has a date. -/
def dates : Registry :=
  let type : TypeId := .plain "N" "DateTime"
  ⟨.ofList [(type, ⟨⟨type, .regular, none, [⟨"p", .simple .datetime none⟩], ""⟩, [("p", .datetime)],
      [], []⟩)], .empty, .empty, .empty, [type, momentType], Schema.standardRawKind, .standard⟩

def datesContext : Context := ⟨.standard, dates, .none⟩

def onADay : Element :=
  { Element.ofType (.plain "N" "DateTime") with properties := .ofList [("p", .str "2024-01-02")] }

/-- The schema knows both types, and both are written without an alias. -/
theorem Target.dates_alike :
    ∃ s, targetScript datesContext false (.element onADay none) = .ok s ∧
      ∃ ns : Namespaces, s.imports = ns.imports .short ∧
        ns.typeName .short (.plain "N" "DateTime") = ns.typeName .short momentType ∧
        Namespaces.Unguarded plainSpaces momentType.space := by
  have ends : (targetScript datesContext false (.element onADay none)).map (·.imports) =
      .ok [⟨"N", ""⟩, ⟨"System", ""⟩] := by
    cbv
  obtain ⟨s, ran, listed⟩ := except_map_ok ends
  have plain : datesContext.handlers = .none := rfl
  have short : datesContext.settings.policy = .short := rfl
  obtain ⟨ns, _, imports, exactly⟩ := Target.script_typeName_eq_iff plain short ran
  rw [imports] at listed
  have bare (space : String) (member : (⟨space, ""⟩ : Import) ∈ ns.imports .short) :
      ns.contains space = true ∧ ns.aliasOf space = "" := by
    have found := Namespaces.mem_imports.mp member
    exact ⟨OrderedMap.contains_iff.mpr ⟨_, found⟩, by simp [Namespaces.aliasOf, found]⟩
  obtain ⟨known, noAlias⟩ := bare "N" (by simp [listed])
  obtain ⟨known', noAlias'⟩ := bare "System" (by simp [listed])
  have alike := exactly (.plain "N" "DateTime") momentType known known' (by decide) (by decide)
  exact ⟨s, ran, ns, imports, alike.1.mpr ⟨rfl, Or.inr ⟨noAlias, noAlias'⟩⟩, Or.inl (by decide)⟩

end DocScript
