import DocScript.Compile.Script
import DocScript.Proofs.Log

/-!
# What handlers are asked during a run

A run is told as the elements that it enters and the requests that it makes of handlers, each with
whether the run was cancelled before and after it. The told run does what the run does.
-/

namespace DocScript

open Compile Logged

/-- What a handler is asked for. -/
inductive Subject where
  | element (e : Element)
  | edge (parent : String) (e : Edge) (part : Part)
  | routine (b : Blueprint)

/-- A handler is asked while the run is cancelled or not, and leaves it cancelled or not. What it
gives is used, or the usual instructions are. -/
inductive Event where
  | enters (e : Element)
  | asks (subject : Subject) (before after used : Bool)

def Event.isAsk : Event → Bool
  | enters _ => false
  | asks .. => true

def Event.cancels : Event → Bool
  | enters _ => false
  | asks _ _ after _ => after

abbrev Told (σ α : Type) := Logged Event σ α

namespace Told

variable {ctx : Context} {graph : Graph}

/-- The one place where a handler is called, and what it gives is used if it counts. -/
def asking {σ α : Type} (cancelled : σ → Bool) (subject : Subject) (handler : σ → Option α × σ)
    (counts : α → Bool) : Told σ (Option α) := fun s =>
  let (given, t) := handler s
  ((.ok (given.filter counts), t),
    [.asks subject (cancelled s) (cancelled t) (given.filter counts).isSome])

/-! ### Elements -/

def handled (ctx : Context) (e : Element) : Told Workspace (Option ElementOutput) :=
  match ctx.handlers.elements.get? e.type with
  | none => pure none
  | some handler =>
    asking (·.shared.cancelled) (.element e) (handler e) (!·.instructions.isEmpty)

theorem run_handled (e : Element) : (handled ctx e).run = Compile.handled ctx e := by
  unfold handled Compile.handled
  cases ctx.handlers.elements.get? e.type <;> rfl

mutual

def element (ctx : Context) (path : List String) : Element → Told Workspace ElementOutput
  | e@⟨type, children, _, _, _, _, _, _⟩ => do
    note (.enters e)
    quiet Build.checkCancelled
    let path := path ++ [type.name]
    let resolved := ctx.registry.element? type
    if skips ctx.settings resolved e then
      return ⟨[], ""⟩
    else
      match ← handled ctx e with
      | some output => return output
      | none =>
        match resolved with
        | none => quiet (Step.fail (.unsupported (.elementType type) (Location.of? path none)))
        | some r =>
          quiet (Build.register ctx type)
          if r.spec.category = .opaqueNode then
            let value ← quiet (creation ctx e r.spec path)
            let (declaration, name) ← quiet (Build.declare ctx type value)
            quiet (Build.release type name)
            return ⟨[declaration], name⟩
          else
            let (head, name) ← quiet (elementHead ctx e r path)
            quiet Build.checkCancelled
            let body ← elements ctx path name children
            quiet (Build.release type name)
            return ⟨head ++ body, name⟩

def elements (ctx : Context) (path : List String) (name : String) :
    List Element → Told Workspace (List Instr)
  | [] => pure []
  | child :: rest =>
    if skipsOpaque ctx child then elements ctx path name rest
    else do
      let output ← element ctx path child
      let more ← elements ctx path name rest
      return output.instructions ++ append name output.name ++ more

end

mutual

theorem run_element (path : List String) :
    ∀ e : Element, (element ctx path e).run = Compile.element ctx path e
  | ⟨type, children, _, _, _, _, _, _⟩ => by
    have below (name : String) := run_elements (path ++ [type.name]) name children
    unfold element Compile.element
    simp only [run_bind, run_note, run_quiet, Step.pure_then]
    refine congrArg _ (funext fun _ => ?_)
    split
    · rfl
    · rw [run_bind, run_handled]
      refine congrArg _ (funext fun given => ?_)
      cases given with
      | some output => rfl
      | none =>
        cases ctx.registry.element? type with
        | none => rfl
        | some r =>
          simp only [run_bind, run_quiet]
          refine congrArg _ (funext fun _ => ?_)
          split
          · simp only [run_bind, run_quiet, run_pure]
          · simp only [run_bind, run_quiet, run_pure, below]

theorem run_elements (path : List String) (name : String) :
    ∀ es : List Element, (elements ctx path name es).run = Compile.elements ctx path name es
  | [] => rfl
  | child :: rest => by
    have first := run_element path child
    have others := run_elements path name rest
    unfold elements Compile.elements
    split
    · exact others
    · simp only [run_bind, run_pure, first, others]

end

def root (ctx : Context) (e : Option Element) : Told Workspace ElementOutput :=
  match e with
  | none => quiet (Step.fail (.unmet .element))
  | some e => element ctx [] e

theorem run_root (e : Option Element) : (root ctx e).run = Compile.root ctx e := by
  cases e with
  | none => rfl
  | some e => exact run_element [] e

/-! ### Edges -/

/-- A handler that only sees what is shared, at work on a graph. -/
def onShared {α : Type} (handler : Shared → α × Shared) (w : PartWork) : α × PartWork :=
  let (a, shared) := handler w.shared
  (a, { w with shared })

def handledEdge (ctx : Context) (parent : String) (e : Edge) (part : Part) :
    Told PartWork (Option (List Instr)) :=
  match ctx.handlers.parts.get? part.type with
  | none => pure none
  | some handler =>
    asking (·.shared.cancelled) (.edge parent e part) (onShared (handler.edge parent e part))
      (!·.isEmpty)

theorem run_handledEdge (parent : String) (e : Edge) (part : Part) :
    (handledEdge ctx parent e part).run = Compile.handledEdge ctx parent e part := by
  unfold handledEdge Compile.handledEdge
  cases ctx.handlers.parts.get? part.type <;> rfl

def edge (ctx : Context) (graph : Graph) :
    (fuel : Nat) → (parent : String) → (parentType : TypeId) → Edge → Told PartWork (List Instr)
  | 0, _, _, _ => pure []
  | fuel + 1, parent, parentType, e => do
    quiet Visit.checkCancelled
    match graph.get? e.target with
    | none => quiet (Step.fail (.unmet (.edgeTarget e.id e.target)))
    | some part =>
      match ← handledEdge ctx parent e part with
      | some given => return given
      | none =>
        match ← quiet (Step.read (·.blueprints.get? part.uri)) with
        | some b => return [.invokeOn (some (.var parent)) "AddPart" [.var b.name, .text e.id]]
        | none =>
          let (creation, name) ← quiet (newPart ctx parent parentType e part)
          let below ← Logged.collect (edge ctx graph fuel name part.type) part.children
          return creation ++ below

def edges (ctx : Context) (graph : Graph) (parent : String) (parentType : TypeId)
    (children : List Edge) : Told PartWork (List Instr) :=
  Logged.collect (edge ctx graph (depthBound graph) parent parentType) children

theorem run_edge : ∀ (fuel : Nat) (parent : String) (parentType : TypeId) (e : Edge),
    (edge ctx graph fuel parent parentType e).run =
      Compile.edge ctx graph fuel parent parentType e := by
  intro fuel
  induction fuel with
  | zero => intro _ _ _; rfl
  | succ fuel deeper =>
    intro parent parentType e
    unfold edge Compile.edge
    rw [run_bind]
    refine congrArg _ (funext fun _ => ?_)
    cases graph.get? e.target with
    | none => rfl
    | some part =>
      simp only [run_bind, run_handledEdge]
      refine congrArg _ (funext fun given => ?_)
      cases given with
      | some given => rfl
      | none =>
        simp only [run_bind]
        refine congrArg _ (funext fun known => ?_)
        cases known with
        | some b => rfl
        | none => simp only [run_bind, run_quiet, run_pure, run_collect, deeper]

theorem run_edges (parent : String) (parentType : TypeId) (children : List Edge) :
    (edges ctx graph parent parentType children).run =
      Compile.edges ctx graph parent parentType children := by
  unfold edges Compile.edges
  rw [run_collect]
  exact congrArg (Step.collect · children) (funext fun e => run_edge _ parent parentType e)

/-! ### Routines -/

def buildAlone {α : Type} (m : Told Workspace α) : Told PartWork α := fun w =>
  (Visit.buildAlone m.run w, m.log ⟨w.shared, .empty⟩)

@[simp] theorem run_buildAlone {α : Type} (m : Told Workspace α) :
    (buildAlone m).run = Visit.buildAlone m.run := rfl

def content (ctx : Context) (part : Part) : Told PartWork (List Instr) :=
  match part.content with
  | .none => pure []
  | .binary bytes => quiet (payloadFeed ctx bytes)
  | .root e => do
    let output ← buildAlone (root ctx (some e))
    match rootAssignment ctx part e output.name with
    | .ok assignment => return output.instructions ++ assignment
    | .error failure => quiet (Step.fail failure)

theorem run_content (part : Part) : (content ctx part).run = Compile.content ctx part := by
  unfold content Compile.content
  cases part.content with
  | none => rfl
  | binary bytes => rfl
  | root e =>
    simp only [run_bind, run_buildAlone, run_root]
    refine congrArg _ (funext fun output => ?_)
    cases rootAssignment ctx part e output.name <;> rfl

def fillRoutine (ctx : Context) (b : Blueprint) : Told PartWork Routine := do
  let body ← content ctx b.part
  let typeName ← quiet (Visit.typeName ctx b.part.type)
  return ⟨b.routine, [⟨partName, typeName, true⟩], body, none, none, false⟩

def handledRoutine (ctx : Context) (b : Blueprint) : Told PartWork (Option Routine) :=
  match ctx.handlers.parts.get? b.part.type with
  | none => pure none
  | some handler =>
    asking (·.shared.cancelled) (.routine b) (onShared (handler.routine b)) fun _ => true

theorem run_handledRoutine (b : Blueprint) :
    (handledRoutine ctx b).run = Compile.handledRoutine ctx b := by
  unfold handledRoutine Compile.handledRoutine
  cases ctx.handlers.parts.get? b.part.type with
  | none => rfl
  | some handler =>
    funext w
    show (Except.ok ((handler.routine b w.shared).1.filter fun _ => true), _) = (Except.ok _, _)
    cases (handler.routine b w.shared).1 <;> rfl

def helper (ctx : Context) (b : Blueprint) : Told PartWork (List Routine) := do
  quiet Visit.checkCancelled
  match ← handledRoutine ctx b with
  | some routine => return [routine]
  | none => return [← fillRoutine ctx b]

theorem run_helper (b : Blueprint) : (helper ctx b).run = Compile.helper ctx b := by
  unfold helper Compile.helper
  simp only [run_bind, run_handledRoutine]
  refine congrArg _ (funext fun _ => congrArg _ (funext fun given => ?_))
  cases given with
  | some routine => rfl
  | none =>
    simp only [fillRoutine, Compile.fillRoutine, run_bind, run_quiet, run_pure, run_content]

def helpers (ctx : Context) : Told PartWork (List Routine) := do
  let blueprints ← quiet (Step.read (·.blueprints.values))
  Logged.collect (helper ctx) blueprints

theorem run_helpers : (helpers ctx).run = Compile.helpers ctx := by
  have each : (fun b => (helper ctx b).run) = Compile.helper ctx := funext run_helper
  simp only [helpers, Compile.helpers, run_bind, run_quiet, run_collect, each]

/-! ### Entries -/

def partEntry (ctx : Context) (graph : Graph) (part : Part) : Told PartWork Routine := do
  quiet Visit.checkCancelled
  quiet (Visit.register ctx part.type)
  let routine := fillName (← quiet (Visit.nextName part.type))
  quiet (Visit.enter ⟨part, partName, routine⟩)
  let relations ← quiet (links ctx partName part.hyperlinks part.externals)
  let below ← edges ctx graph partName part.type part.children
  let typeName ← quiet (Visit.typeName ctx part.type)
  let gap := if part.children.isEmpty then [] else [Instr.blank]
  return ⟨"Create" ++ part.type.name, [⟨partName, typeName, false⟩],
    fillCall partName routine :: relations ++ gap ++ below, none, none, true⟩

theorem run_partEntry (part : Part) :
    (partEntry ctx graph part).run = Compile.partEntry ctx graph part := by
  simp only [partEntry, Compile.partEntry, run_bind, run_quiet, run_pure, run_edges]

def partRoutines (ctx : Context) (graph : Graph) (part : Option Part) :
    Told PartWork (Routine × List Routine) :=
  match part with
  | none => quiet (Step.fail (.unmet .part))
  | some part => do
    let entry ← partEntry ctx graph part
    return (entry, ← helpers ctx)

theorem run_partRoutines (part : Option Part) :
    (partRoutines ctx graph part).run = Compile.partRoutines ctx graph part := by
  cases part with
  | none => rfl
  | some part =>
    simp only [partRoutines, Compile.partRoutines, run_bind, run_pure, run_partEntry, run_helpers]

def packageEntries (ctx : Context) (graph : Graph) (package : Package) :
    Told PartWork (Routine × Routine) := do
  quiet Visit.checkCancelled
  quiet (Visit.addPlain streamType.space)
  quiet (Visit.register ctx package.type)
  let create := ((ctx.registry.package? package.type).map (·.create)).getD
    PackageSpec.defaultCreate
  let typeName ← quiet (Visit.typeName ctx package.type)
  let streamTypeName ← quiet (Visit.typeName ctx streamType)
  let below ← edges ctx graph packageName package.type package.children
  let relations ← quiet (links ctx packageName package.hyperlinks package.externals)
  let parts : Routine := ⟨createParts, [⟨packageName, typeName, false⟩], below ++ relations,
    none, none, false⟩
  return (packageEntry typeName streamTypeName create, parts)

theorem run_packageEntries (package : Package) :
    (packageEntries ctx graph package).run = Compile.packageEntries ctx graph package := by
  simp only [packageEntries, Compile.packageEntries, run_bind, run_quiet, run_pure, run_edges]

def packageRoutines (ctx : Context) (graph : Graph) (package : Option Package) :
    Told PartWork (Routine × List Routine) :=
  match package with
  | none => quiet (Step.fail (.unmet .package))
  | some package => do
    let (entry, parts) ← packageEntries ctx graph package
    return (entry, parts :: (← helpers ctx))

theorem run_packageRoutines (package : Option Package) :
    (packageRoutines ctx graph package).run = Compile.packageRoutines ctx graph package := by
  cases package with
  | none => rfl
  | some package =>
    simp only [packageRoutines, Compile.packageRoutines, run_bind, run_pure, run_packageEntries,
      run_helpers]

end Told

end DocScript
