import DocScript.Proofs.Element.Fault
import DocScript.Proofs.Element.Registers

/-!
# The types that an element tree names

Which types the script for a tree names can be read off the tree and the schema. A run registers
just these, in pre-order; so the table that it leaves depends on nothing but the tree and the table
at its start, and a run whose types are all registered leaves the table alone.
-/

namespace DocScript

/-- What stands for a type in a script: the name of a type that is registered with its arguments,
the name of one whose namespace is added on its own, or a word of the language. -/
inductive Mention where
  | declared (t : TypeId)
  | library (t : TypeId)
  | word (text : String)

namespace Mention

def text (typeName : TypeId → String) : Mention → String
  | declared t | library t => typeName t
  | word text => text

def registrations : Mention → List Registration
  | declared t => [.type t]
  | library t => [.space t.space]
  | word _ => []

/-- The types whose namespaces have to be imported, with all arguments of a registered type. -/
def types : Mention → List TypeId
  | declared t => t.parts
  | library t => [t]
  | word _ => []

theorem self_mem_types (t : TypeId) : t ∈ (declared t).types := by
  obtain ⟨space, name, args⟩ := t
  rw [types, TypeId.parts]
  exact List.mem_cons_self

theorem mem_spaces {m : Mention} {space : String} :
    space ∈ m.registrations.flatMap Registration.spaces ↔ ∃ t ∈ m.types, t.space = space := by
  cases m with
  | declared t => simpa [registrations, types, Registration.spaces] using TypeId.mem_spaces t
  | library t => simp [registrations, types, Registration.spaces, eq_comm]
  | word text => simp [registrations, types]

end Mention

namespace Step

variable {σ α β : Type} {table : σ → Namespaces} {schema : Registry}
  {calls more : List Registration}

/-- A step that ends well has made some registrations. -/
def Performs (table : σ → Namespaces) (schema : Registry) (m : Step σ α)
    (calls : List Registration) : Prop :=
  ∀ s a s', m s = (.ok a, s') → table s' = Namespaces.performAll schema (table s) calls

theorem performs_of_same {m : Step σ α} (same : ∀ s, table (m s).2 = table s) :
    Performs table schema m [] := by
  intro s a s' ran
  have kept := same s
  rwa [ran] at kept

theorem performs_pure (a : α) : Performs table schema (pure a : Step σ α) [] :=
  performs_of_same fun _ => rfl

theorem performs_read (f : σ → α) : Performs table schema (read f) [] :=
  performs_of_same fun _ => rfl

theorem performs_fail (e : Failure) : Performs table schema (fail e : Step σ α) calls :=
  fun _ _ _ ran => (fail_ok ran).elim

theorem Performs.bind {m : Step σ α} {f : α → Step σ β} (first : Performs table schema m calls)
    (next : ∀ a, Performs table schema (f a) more) :
    Performs table schema (m >>= f) (calls ++ more) := by
  intro s b u ran
  obtain ⟨a, t, ran₁, ran₂⟩ := bind_ok ran
  rw [next a t b u ran₂, first s a t ran₁, Namespaces.performAll_append]

theorem Performs.after {m : Step σ α} {f : α → Step σ β} (first : Performs table schema m [])
    (next : ∀ a, Performs table schema (f a) calls) : Performs table schema (m >>= f) calls :=
  first.bind next

theorem Performs.before {m : Step σ α} {f : α → Step σ β} (first : Performs table schema m calls)
    (next : ∀ a, Performs table schema (f a) []) : Performs table schema (m >>= f) calls := by
  have both := first.bind next
  rwa [List.append_nil] at both

/-- What is registered twice in a row is registered once. -/
theorem Performs.twice {m : Step σ α} {call : Registration}
    (h : Performs table schema m (calls ++ [call])) :
    Performs table schema m (calls ++ [call, call]) := by
  intro s a s' ran
  have once := h s a s' ran
  rw [Namespaces.performAll_append] at once
  have grown : Namespaces.performAll schema (Namespaces.performAll schema (table s) calls) [call] ≤
      table s' := once ▸ Namespaces.le_refl _
  have kept : Namespaces.performAll schema (table s') [call] = table s' :=
    Namespaces.performAll_of_le grown
  rw [← kept, once, ← Namespaces.performAll_append, ← Namespaces.performAll_append]
  rfl

theorem performs_collect {f : α → Step σ (List β)} {calls : α → List Registration}
    (each : ∀ a, Performs table schema (f a) (calls a)) (as : List α) :
    Performs table schema (collect f as) (as.flatMap calls) := by
  induction as with
  | nil => exact performs_pure []
  | cons a rest ih =>
    rw [collect_cons]
    exact (each a).bind fun _ => ih.before fun _ => performs_pure _

end Step

open Step

namespace Build

variable {α : Type} {ctx : Context} {t : TypeId}

abbrev Performs (ctx : Context) (m : Build α) (calls : List Registration) : Prop :=
  Step.Performs (·.shared.namespaces) ctx.registry m calls

theorem performs_register : Build.Performs ctx (register ctx t) [.type t] := by
  intro w u w' ran
  obtain ⟨_, rfl⟩ := Prod.mk.inj ran
  rfl

theorem performs_addPlain {space : String} :
    Build.Performs ctx (addPlain space) [.space space] := by
  intro w u w' ran
  obtain ⟨_, rfl⟩ := Prod.mk.inj ran
  rfl

theorem performs_typeName : Build.Performs ctx (typeName ctx t) [] := performs_read _

theorem performs_checkCancelled : Build.Performs ctx checkCancelled [] := by
  apply performs_of_same
  intro w
  unfold checkCancelled
  split <;> rfl

theorem performs_release {name : String} : Build.Performs ctx (release t name) [] :=
  performs_of_same fun _ => rfl

theorem performs_declare {value : Expr} : Build.Performs ctx (declare ctx t value) [] := by
  have taken : Build.Performs ctx (acquire ctx t) [] := performs_of_same fun _ => rfl
  unfold declare
  refine taken.after fun name => ?_
  split
  split
  · exact performs_pure _
  · exact performs_typeName.after fun _ => performs_pure _

end Build

namespace Compile

open Build

variable {ctx : Context} {e : Element} {path : List String}

/-! ### What the parts of an element name -/

def momentMentions : List Mention := [.library momentType, .library momentKindType]

/-- The type of a complex property that has a value. -/
def valueMentions (e : Element) (p : String × TypeId) : List Mention :=
  match e.value? p.1 with
  | none => []
  | some _ => [.declared p.2]

def bagMentions (ctx : Context) (e : Element) : List Mention :=
  match e.markup with
  | none => []
  | some _ => [.declared ctx.registry.bag.type]

/-- The type that tells of what kind a raw payload is. -/
def kindMentions (ctx : Context) (spec : ElementSpec) : List Mention :=
  match spec.category with
  | .rawPayload => [.declared ctx.registry.rawKind]
  | _ => []

/-- The types for the date in a simple property. -/
def simpleMentions (e : Element) (p : String × Primitive) : List Mention :=
  match e.value? p.1 with
  | none => []
  | some raw =>
    match (Raw.json raw).coerce? p.2 with
    | some (.moment _) => momentMentions
    | _ => []

def enumMentions (e : Element) (p : String × EnumSpec) : List Mention :=
  match e.value? p.1 with
  | none => []
  | some _ => [.declared p.2.type]

/-- The types named for what belongs to an element, up to its children. -/
def headMentions (ctx : Context) (e : Element) (r : ResolvedElement) : List Mention :=
  r.complex.flatMap (valueMentions e) ++ bagMentions ctx e ++ kindMentions ctx r.spec
    ++ r.simple.flatMap (simpleMentions e) ++ r.enums.flatMap (enumMentions e)

mutual

/-- The types that are named for an element tree, in the order in which they are registered. -/
def elementMentions (ctx : Context) : Element → List Mention
  | e@⟨type, children, _, _, _, _, _, _⟩ =>
    match ctx.registry.element? type with
    | none => []
    | some r =>
      if skips ctx.settings (some r) e then []
      else if r.spec.category = .opaqueNode then [.declared type]
      else .declared type :: headMentions ctx e r ++ elementMentionsAll ctx children

def elementMentionsAll (ctx : Context) : List Element → List Mention
  | [] => []
  | e :: rest => elementMentions ctx e ++ elementMentionsAll ctx rest

end

theorem elementMentionsAll_eq (ctx : Context) (es : List Element) :
    elementMentionsAll ctx es = es.flatMap (elementMentions ctx) := by
  induction es with
  | nil => rw [elementMentionsAll, List.flatMap_nil]
  | cons e rest ih => rw [elementMentionsAll, ih, List.flatMap_cons]

theorem elementMentions_eq (ctx : Context) (e : Element) :
    elementMentions ctx e =
      match ctx.registry.element? e.type with
      | none => []
      | some r =>
        if skips ctx.settings (some r) e then []
        else if r.spec.category = .opaqueNode then [.declared e.type]
        else .declared e.type :: headMentions ctx e r
          ++ e.children.flatMap (elementMentions ctx) := by
  obtain ⟨type, children, properties, declarations, text, payload, rawKind, markup⟩ := e
  rw [elementMentions, elementMentionsAll_eq]

theorem elementMentions_of_skips {r : ResolvedElement}
    (known : ctx.registry.element? e.type = some r)
    (passed : skips ctx.settings (some r) e = true) : elementMentions ctx e = [] := by
  rw [elementMentions_eq, known]
  exact if_pos passed

def registrationsOf (ms : List Mention) : List Registration := ms.flatMap Mention.registrations

theorem registrationsOf_append (ms more : List Mention) :
    registrationsOf (ms ++ more) = registrationsOf ms ++ registrationsOf more := List.flatMap_append

theorem registrationsOf_flatMap {α : Type} (f : α → List Mention) (as : List α) :
    registrationsOf (as.flatMap f) = as.flatMap fun a => registrationsOf (f a) := List.flatMap_assoc

theorem mem_registrationsOf {ms : List Mention} {space : String} :
    space ∈ (registrationsOf ms).flatMap Registration.spaces ↔
      ∃ m ∈ ms, ∃ t ∈ m.types, t.space = space := by
  rw [registrationsOf, List.flatMap_assoc, List.mem_flatMap]
  simp only [Mention.mem_spaces]

theorem contains_of_mention {schema : Registry} {ns : Namespaces} {ms : List Mention} {m : Mention}
    {t : TypeId} (member : m ∈ ms) (inside : t ∈ m.types) :
    (Namespaces.performAll schema ns (registrationsOf ms)).contains t.space = true :=
  Namespaces.contains_performAll schema ns (mem_registrationsOf.mpr ⟨m, member, t, inside, rfl⟩)

/-! ### What a run registers -/

theorem performs_creation {spec : ElementSpec} :
    Build.Performs ctx (creation ctx e spec path) (registrationsOf (kindMentions ctx spec)) := by
  unfold creation kindMentions
  refine performs_typeName.after fun name => ?_
  cases category : spec.category with
  | regular | leafText | opaqueNode => exact performs_pure _
  | rawPayload =>
    dsimp only
    split
    · exact performs_fail _
    · exact performs_register.before fun _ => performs_typeName.after fun _ => performs_pure _

theorem performs_opaqueCreation {spec : ElementSpec} (only : spec.category = .opaqueNode) :
    Build.Performs ctx (creation ctx e spec path) [] := by
  have none : registrationsOf (kindMentions ctx spec) = [] := by
    rw [kindMentions, only]
    rfl
  rw [← none]
  exact performs_creation

theorem performs_ownedSteps (type : TypeId) (property : String) (arguments : List String)
    (fields : List (String × String)) :
    Build.Performs ctx (ownedSteps ctx type property arguments fields) [.type type] :=
  performs_register.before fun _ => performs_typeName.after fun _ =>
    performs_declare.after fun _ => performs_pure _

theorem performs_complexValue (p : String × TypeId) :
    Build.Performs ctx (complexValue ctx e p) (registrationsOf (valueMentions e p)) := by
  rw [complexValue_eq, valueMentions]
  cases e.value? p.1 with
  | none => exact performs_pure _
  | some raw => exact performs_ownedSteps _ _ _ _

theorem performs_markupBag :
    Build.Performs ctx (markupBag ctx e) (registrationsOf (bagMentions ctx e)) := by
  rw [markupBag_eq, bagMentions]
  cases e.markup with
  | none => exact performs_pure _
  | some rules => exact performs_ownedSteps _ _ _ _

/-- Both types of a date are in one namespace, which is added once. -/
theorem performs_momentExpr (m : Calendar.Moment) :
    Build.Performs ctx (momentExpr ctx m) (registrationsOf momentMentions) := by
  have added : Build.Performs ctx (momentExpr ctx m) [.space momentType.space] := by
    unfold momentExpr
    refine performs_addPlain.before fun _ => performs_typeName.after fun _ => ?_
    split
    · exact performs_fail _
    · exact performs_typeName.after fun _ => performs_pure _
  have start : Build.Performs ctx (momentExpr ctx m) ([] ++ [.space momentType.space]) := added
  exact start.twice

theorem performs_simpleProperty (name : String) (p : String × Primitive) :
    Build.Performs ctx (simpleProperty ctx e name p) (registrationsOf (simpleMentions e p)) := by
  unfold simpleProperty simpleMentions
  cases e.value? p.1 with
  | none => exact performs_pure _
  | some raw =>
    dsimp only
    cases (Raw.json raw).coerce? p.2 with
    | none => exact performs_pure _
    | some value =>
      cases value with
      | literal l => exact performs_pure _
      | moment m => exact (performs_momentExpr m).before fun _ => performs_pure _

theorem performs_enumProperty (name : String) (p : String × EnumSpec) :
    Build.Performs ctx (enumProperty ctx e name p) (registrationsOf (enumMentions e p)) := by
  unfold enumProperty enumMentions
  cases e.value? p.1 with
  | none => exact performs_pure _
  | some raw =>
    refine performs_register.before fun _ => performs_typeName.after fun _ => ?_
    split <;> exact performs_pure _

theorem performs_wires (name : String) (ws : List Wire) :
    Build.Performs ctx (Step.collect (wire name) ws) [] := by
  have each (x : Wire) : Build.Performs ctx (wire name x) [] :=
    performs_release.after fun _ => performs_pure _
  have all := performs_collect each ws
  rwa [List.flatMap_eq_nil_iff.mpr fun _ _ => rfl] at all

theorem performs_elementHead {r : ResolvedElement} :
    Build.Performs ctx (elementHead ctx e r path) (registrationsOf (headMentions ctx e r)) := by
  rw [headMentions]
  simp only [registrationsOf_append, registrationsOf_flatMap, List.append_assoc]
  unfold elementHead
  refine (performs_collect performs_complexValue _).bind fun values => ?_
  refine performs_markupBag.bind fun bag => performs_creation.bind fun value => ?_
  refine performs_declare.after fun made => ?_
  refine (performs_collect (performs_simpleProperty _) _).bind fun simple => ?_
  refine (performs_wires _ _).after fun wires => ?_
  exact (performs_collect (performs_enumProperty _) _).before fun enums => performs_pure _

theorem performs_elements {es : List Element}
    (each : ∀ c ∈ es, ∀ path,
      Build.Performs ctx (element ctx path c) (registrationsOf (elementMentions ctx c)))
    (name : String) :
    Build.Performs ctx (elements ctx path name es)
      (registrationsOf (es.flatMap (elementMentions ctx))) := by
  induction es with
  | nil =>
    rw [elements]
    exact performs_pure []
  | cons c rest ih =>
    have others := ih fun d member => each d (List.mem_cons_of_mem c member)
    rw [elements, List.flatMap_cons, registrationsOf_append]
    split
    · next skipped =>
      obtain ⟨r, known, passed⟩ := skips_of_skipsOpaque skipped
      rw [elementMentions_of_skips known passed]
      exact others
    · exact (each c List.mem_cons_self path).bind fun out => others.before fun more => performs_pure _

/-- A run that ends well has registered the types that its tree names, and nothing else. -/
theorem performs_element (plain : ctx.handlers = .none) (e : Element) :
    ∀ path, Build.Performs ctx (element ctx path e) (registrationsOf (elementMentions ctx e)) := by
  induction e using Element.induction with
  | step e ih =>
    intro path
    rw [elementMentions_eq]
    obtain ⟨type, children, properties, declarations, text, payload, rawKind, markup⟩ := e
    rw [element]
    refine performs_checkCancelled.after fun _ => ?_
    simp only [handled_plain plain, Step.pure_then]
    cases known : ctx.registry.element? type with
    | none => simpa [skips] using performs_fail _
    | some r =>
      dsimp only
      split
      · exact performs_pure _
      · split
        · next only =>
          refine performs_register.before fun _ => (performs_opaqueCreation only).after fun _ => ?_
          exact performs_declare.after fun _ => performs_release.after fun _ => performs_pure _
        · rw [List.cons_append, registrationsOf, List.flatMap_cons]
          refine performs_register.bind fun _ => ?_
          rw [← registrationsOf, registrationsOf_append]
          refine performs_elementHead.bind fun head => performs_checkCancelled.after fun _ => ?_
          exact (performs_elements ih head.2).before fun body => performs_release.after fun _ =>
            performs_pure _

end Compile

end DocScript
