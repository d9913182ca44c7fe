import DocScript.Compile.Script
import DocScript.Proofs.Element.Run
import DocScript.Proofs.Graph.Visit
import DocScript.Proofs.Schema.Order

/-!
# Runs in contexts that agree

A run asks its registry for nothing but what agreeing registries have in common, and it asks
handlers for nothing once it is cancelled. So each step of it is the same step in two contexts that
differ in the rest.
-/

namespace DocScript

theorem related_cases {α β : Type} {R : α → β → Prop} {a : Option α} {b : Option β}
    (h : Option.Rel R a b) :
    (a = none ∧ b = none) ∨ ∃ x y, a = some x ∧ b = some y ∧ R x y := by
  cases h with
  | none => exact Or.inl ⟨rfl, rfl⟩
  | some related => exact Or.inr ⟨_, _, rfl, rfl, related⟩

/-- Handlers for the same types that may differ in what they do in a run that is cancelled, and in
nothing else. -/
structure Handlers.AgreeWhileRunning (h h' : Handlers) : Prop where
  elements : ∀ t, Option.Rel
    (fun f g => ∀ e w, w.shared.cancelled = false → f e w = g e w)
    (h.elements.get? t) (h'.elements.get? t)
  parts : ∀ t, Option.Rel
    (fun f g => ∀ s, s.cancelled = false →
      (∀ parent e part, f.edge parent e part s = g.edge parent e part s) ∧
        ∀ b, f.routine b s = g.routine b s)
    (h.parts.get? t) (h'.parts.get? t)

theorem Handlers.AgreeWhileRunning.refl (h : Handlers) : h.AgreeWhileRunning h where
  elements t := by
    cases h.elements.get? t with
    | none => exact .none
    | some f => exact .some fun _ _ _ => rfl
  parts t := by
    cases h.parts.get? t with
    | none => exact .none
    | some f => exact .some fun _ _ => ⟨fun _ _ _ => rfl, fun _ => rfl⟩

/-- Two contexts that differ only in registries that agree, and in what their handlers would do in a
run that is cancelled. -/
structure Context.Agrees (ctx ctx' : Context) : Prop where
  settings : ctx.settings = ctx'.settings
  handlers : ctx.handlers.AgreeWhileRunning ctx'.handlers
  registry : ctx.registry.Agrees ctx'.registry

namespace Context.Agrees

open Compile

variable {ctx ctx' : Context}

section Elements

theorem register (h : ctx.Agrees ctx') (t : TypeId) :
    Build.register ctx t = Build.register ctx' t := by
  simp only [Build.register, h.registry.register]

theorem typeName (h : ctx.Agrees ctx') (t : TypeId) :
    Build.typeName ctx t = Build.typeName ctx' t := by
  simp only [Build.typeName, h.settings]

theorem declare (h : ctx.Agrees ctx') (t : TypeId) (value : Expr) :
    Build.declare ctx t value = Build.declare ctx' t value := by
  simp only [Build.declare, Build.acquire, h.settings, h.typeName]

theorem skipsOpaque (h : ctx.Agrees ctx') (e : Element) :
    Compile.skipsOpaque ctx e = Compile.skipsOpaque ctx' e := by
  simp only [Compile.skipsOpaque, h.settings, h.registry.element]

theorem handled (h : ctx.Agrees ctx') (e : Element) {w : Workspace}
    (running : w.shared.cancelled = false) :
    Compile.handled ctx e w = Compile.handled ctx' e w := by
  unfold Compile.handled
  rcases related_cases (h.handlers.elements e.type) with
    ⟨missing, missing'⟩ | ⟨f, g, found, found', same⟩
  · rw [missing, missing']
  · rw [found, found']
    simp only [Step.act, same e w running]

theorem creation (h : ctx.Agrees ctx') (e : Element) (spec : ElementSpec) (path : List String) :
    Compile.creation ctx e spec path = Compile.creation ctx' e spec path := by
  simp only [Compile.creation, h.typeName, h.register, h.registry.rawKind]

theorem complexValue (h : ctx.Agrees ctx') (e : Element) (property : String × TypeId) :
    Compile.complexValue ctx e property = Compile.complexValue ctx' e property := by
  simp only [Compile.complexValue, h.typeName, h.register, h.declare]

theorem markupBag (h : ctx.Agrees ctx') (e : Element) :
    Compile.markupBag ctx e = Compile.markupBag ctx' e := by
  simp only [Compile.markupBag, h.typeName, h.register, h.declare, h.registry.bag]

theorem simpleProperty (h : ctx.Agrees ctx') (e : Element) (name : String)
    (property : String × Primitive) :
    Compile.simpleProperty ctx e name property = Compile.simpleProperty ctx' e name property := by
  simp only [Compile.simpleProperty, Compile.momentExpr, h.typeName]

theorem enumProperty (h : ctx.Agrees ctx') (e : Element) (name : String)
    (property : String × EnumSpec) :
    Compile.enumProperty ctx e name property = Compile.enumProperty ctx' e name property := by
  simp only [Compile.enumProperty, h.typeName, h.register]

theorem elementHead (h : ctx.Agrees ctx') (e : Element) (r : ResolvedElement)
    (path : List String) : Compile.elementHead ctx e r path = Compile.elementHead ctx' e r path := by
  have complex : Compile.complexValue ctx e = Compile.complexValue ctx' e :=
    funext (h.complexValue e)
  have simple (name : String) :
      Compile.simpleProperty ctx e name = Compile.simpleProperty ctx' e name :=
    funext (h.simpleProperty e name)
  have enums (name : String) : Compile.enumProperty ctx e name = Compile.enumProperty ctx' e name :=
    funext (h.enumProperty e name)
  simp only [Compile.elementHead, complex, h.markupBag, h.creation, h.declare, simple, enums]

mutual

theorem element (h : ctx.Agrees ctx') :
    ∀ (path : List String) (e : Element), Compile.element ctx path e = Compile.element ctx' path e
  | path, ⟨type, children, _, _, _, _, _, _⟩ => by
    have below (path : List String) (name : String) := elements h path name children
    unfold Compile.element
    simp only [h.settings, h.registry.element, h.register, h.creation, h.declare, h.elementHead,
      below]
    funext w
    -- The handler is asked in the state in which the run was found not to be cancelled.
    refine Step.bind_congr rfl fun _ w₁ checked => ?_
    obtain ⟨running, rfl⟩ := Build.checkCancelled_ok checked
    split
    · rfl
    · exact Step.bind_congr (h.handled _ running) fun _ _ _ => rfl

theorem elements (h : ctx.Agrees ctx') :
    ∀ (path : List String) (name : String) (es : List Element),
      Compile.elements ctx path name es = Compile.elements ctx' path name es
  | _, _, [] => by rw [Compile.elements, Compile.elements]
  | path, name, child :: rest => by
    rw [Compile.elements, Compile.elements, h.skipsOpaque, element h path child,
      elements h path name rest]

end

theorem root (h : ctx.Agrees ctx') (e : Option Element) :
    Compile.root ctx e = Compile.root ctx' e := by
  simp only [Compile.root, h.element]

end Elements

section Graphs

theorem visit_register (h : ctx.Agrees ctx') (t : TypeId) :
    Visit.register ctx t = Visit.register ctx' t := by
  simp only [Visit.register, h.registry.register]

theorem visit_typeName (h : ctx.Agrees ctx') (t : TypeId) :
    Visit.typeName ctx t = Visit.typeName ctx' t := by
  simp only [Visit.typeName, h.settings]

theorem addOperation? (h : ctx.Agrees ctx') (parent child : TypeId) :
    Compile.addOperation? ctx.registry parent child =
      Compile.addOperation? ctx'.registry parent child := by
  simp only [Compile.addOperation?, h.registry.part, h.registry.package]

theorem links (h : ctx.Agrees ctx') (owner : String) (hyperlinks : List Hyperlink)
    (externals : List ExternalLink) :
    Compile.links ctx owner hyperlinks externals = Compile.links ctx' owner hyperlinks externals := by
  simp only [Compile.links, h.settings]

theorem newPart (h : ctx.Agrees ctx') (parent : String) (parentType : TypeId) (e : Edge)
    (part : Part) :
    Compile.newPart ctx parent parentType e part = Compile.newPart ctx' parent parentType e part := by
  simp only [Compile.newPart, Compile.partCreation, h.visit_register, h.visit_typeName,
    h.addOperation?, h.links]

theorem handledEdge (h : ctx.Agrees ctx') (parent : String) (e : Edge) (part : Part) {w : PartWork}
    (running : w.shared.cancelled = false) :
    Compile.handledEdge ctx parent e part w = Compile.handledEdge ctx' parent e part w := by
  unfold Compile.handledEdge
  rcases related_cases (h.handlers.parts part.type) with
    ⟨missing, missing'⟩ | ⟨f, g, found, found', same⟩
  · rw [missing, missing']
  · rw [found, found']
    simp only [Visit.onShared, Step.act, (same _ running).1]

theorem edge (h : ctx.Agrees ctx') (graph : Graph) (fuel : Nat) (parent : String)
    (parentType : TypeId) (e : Edge) :
    Compile.edge ctx graph fuel parent parentType e =
      Compile.edge ctx' graph fuel parent parentType e := by
  induction fuel generalizing parent parentType e with
  | zero => rfl
  | succ fuel ih =>
    have below (name : String) (type : TypeId) :
        Compile.edge ctx graph fuel name type = Compile.edge ctx' graph fuel name type :=
      funext (ih name type)
    unfold Compile.edge
    simp only [h.newPart, below]
    funext w
    refine Step.bind_congr rfl fun _ w₁ checked => ?_
    obtain ⟨running, rfl⟩ := Visit.checkCancelled_ok checked
    cases graph.get? e.target with
    | none => rfl
    | some part => exact Step.bind_congr (h.handledEdge parent e part running) fun _ _ _ => rfl

theorem edges (h : ctx.Agrees ctx') (graph : Graph) (parent : String) (parentType : TypeId)
    (children : List Edge) :
    Compile.edges ctx graph parent parentType children =
      Compile.edges ctx' graph parent parentType children := by
  rw [Compile.edges, Compile.edges, funext (h.edge graph (depthBound graph) parent parentType)]

theorem content (h : ctx.Agrees ctx') (part : Part) :
    Compile.content ctx part = Compile.content ctx' part := by
  simp only [Compile.content, payloadFeed, rootAssignment, rootProperty, h.visit_typeName, h.root,
    h.registry.part]

theorem handledRoutine (h : ctx.Agrees ctx') (b : Blueprint) {w : PartWork}
    (running : w.shared.cancelled = false) :
    Compile.handledRoutine ctx b w = Compile.handledRoutine ctx' b w := by
  unfold Compile.handledRoutine
  rcases related_cases (h.handlers.parts b.part.type) with
    ⟨missing, missing'⟩ | ⟨f, g, found, found', same⟩
  · rw [missing, missing']
  · rw [found, found']
    simp only [Visit.onShared, Step.act, (same _ running).2]

theorem helper (h : ctx.Agrees ctx') (b : Blueprint) :
    Compile.helper ctx b = Compile.helper ctx' b := by
  unfold Compile.helper fillRoutine
  simp only [h.content, h.visit_typeName]
  funext w
  refine Step.bind_congr rfl fun _ w₁ checked => ?_
  obtain ⟨running, rfl⟩ := Visit.checkCancelled_ok checked
  exact Step.bind_congr (h.handledRoutine b running) fun _ _ _ => rfl

theorem helpers (h : ctx.Agrees ctx') : Compile.helpers ctx = Compile.helpers ctx' := by
  rw [Compile.helpers, Compile.helpers, funext h.helper]

theorem partRoutines (h : ctx.Agrees ctx') (graph : Graph) (part : Option Part) :
    Compile.partRoutines ctx graph part = Compile.partRoutines ctx' graph part := by
  simp only [Compile.partRoutines, partEntry, h.visit_register, h.links, h.edges, h.visit_typeName,
    h.helpers]

theorem packageRoutines (h : ctx.Agrees ctx') (graph : Graph) (package : Option Package) :
    Compile.packageRoutines ctx graph package = Compile.packageRoutines ctx' graph package := by
  simp only [Compile.packageRoutines, packageEntries, h.visit_register, h.links, h.edges,
    h.visit_typeName, h.registry.package, h.helpers]

end Graphs

theorem targetScript (h : ctx.Agrees ctx') (cancelled : Bool) (target : Target) :
    Compile.targetScript ctx cancelled target = Compile.targetScript ctx' cancelled target := by
  have script (shared : Shared) (name : String) (routines : List Routine) :
      Compile.script ctx shared name routines = Compile.script ctx' shared name routines := by
    simp only [Compile.script, h.settings]
  cases target with
  | element e graph => simp only [Compile.targetScript, elementScript, h.root, h.settings, script]
  | part uri graph => simp only [Compile.targetScript, partScript, h.partRoutines, script]
  | package package graph =>
    simp only [Compile.targetScript, packageScript, h.packageRoutines, script]

end Context.Agrees

end DocScript
