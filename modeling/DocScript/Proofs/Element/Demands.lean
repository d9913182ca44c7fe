import DocScript.Proofs.Element.Plan
import DocScript.Proofs.Schema.Roles

/-!
# What the rebuilding of elements relies on

The compiler relies on what the registry has found: that a simple property has a primitive kind, a
complex one a type, and an enum property a type that is a declared enum. Here it is written once
more over the properties as they are declared, so that it stops where one of these is missing. With
a registry that was built from a schema it never stops there, whatever tree it is given.
-/

namespace DocScript

/-- Work that stops if something is missing on which it relies; this is no failure, and no state is
left. -/
def Demanding (α : Type) : Type := Workspace → Option (Except Failure α × Workspace)

namespace Demanding

variable {α β γ : Type}

instance : Monad Demanding where
  pure a := fun w => some (.ok a, w)
  bind m f := fun w =>
    match m w with
    | none => none
    | some (.ok a, w') => f a w'
    | some (.error e, w') => some (.error e, w')

/-- Work that relies on nothing. -/
def of (m : Build α) : Demanding α := fun w => some (m w)

/-- Goes on with what ought to be there. -/
def demand : Option α → Demanding α
  | none => fun _ => none
  | some a => pure a

def collect (f : α → Demanding (List β)) : List α → Demanding (List β)
  | [] => pure []
  | a :: rest => do
    let bs ← f a
    let more ← collect f rest
    return bs ++ more

theorem of_pure (a : α) : of (pure a : Build α) = pure a := rfl

theorem of_bind (m : Build α) (f : α → Build β) : of (m >>= f) = of m >>= fun a => of (f a) := by
  funext w
  obtain ⟨result, w', ran⟩ := Step.exists_run m w
  cases result with
  | ok a => simp [of, bind, Step.andThen, ran]
  | error e => simp [of, bind, Step.andThen, ran]

theorem demand_some (a : α) (f : α → Demanding β) : demand (some a) >>= f = f a := rfl

/-- Work on related things that relies on nothing for each of them relies on nothing. -/
theorem collect_of {f : α → Demanding (List γ)} {g : β → Build (List γ)} {as : List α} {bs : List β}
    (each : List.Forall₂ (fun a b => f a = of (g b)) as bs) : collect f as = of (Step.collect g bs) := by
  induction each with
  | nil => rfl
  | cons first _ ih =>
    rw [collect, Step.collect_cons, first, ih]
    simp only [of_bind, of_pure]

/-! ### The compiler, with what it relies on -/

variable (ctx : Context) (e : Element)

/-- Creates the object that is the value of a complex property. -/
def complexValue (p : Property) : Demanding (List (Instr × Option Compile.Wire)) :=
  match e.value? p.name with
  | none => pure []
  | some _ => do
    let type ← demand p.type?
    of (Compile.complexValue ctx e (p.name, type))

/-- Sets a simple property. -/
def simpleProperty (name : String) (p : Property) : Demanding (List Instr) :=
  match e.value? p.name with
  | none => pure []
  | some _ => do
    let primitive ← demand p.primitive?
    of (Compile.simpleProperty ctx e name (p.name, primitive))

/-- Sets an enum property. -/
def enumProperty (name : String) (p : Property) : Demanding (List Instr) :=
  match e.value? p.name with
  | none => pure []
  | some _ => do
    let type ← demand p.type?
    let spec ← demand (ctx.registry.enum? type)
    of (Compile.enumProperty ctx e name (p.name, spec))

/-- Everything about an element up to its children. -/
def elementHead (spec : ElementSpec) (path : List String) : Demanding (List Instr × String) := do
  let properties (role : Property.Kind) := Property.inRole ctx.registry.enums.contains role spec.properties
  let values ← collect (complexValue ctx e) (properties .complex)
  let bag ← of (Compile.markupBag ctx e)
  let objects := values ++ bag
  let value ← of (Compile.creation ctx e spec path)
  let (declaration, name) ← of (Build.declare ctx e.type value)
  let simple ← collect (simpleProperty ctx e name) (properties .simple)
  let wires ← of (Step.collect (Compile.wire name) (objects.filterMap (·.2)))
  let enums ← collect (enumProperty ctx e name) (properties .enum)
  return (objects.map (·.1) ++ declaration :: Compile.declarations e name ++ simple ++ wires ++ enums
    ++ [.blank], name)

mutual

/-- The instructions that rebuild an element, which stands below the types of `path`. -/
def element (path : List String) : Element → Demanding ElementOutput
  | e@⟨type, children, _, _, _, _, _, _⟩ => do
    of Build.checkCancelled
    let path := path ++ [type.name]
    let resolved := ctx.registry.element? type
    if Compile.skips ctx.settings resolved e then
      return ⟨[], ""⟩
    else
      match ← of (Compile.handled ctx e) with
      | some output => return output
      | none =>
        match resolved with
        | none => of (Step.fail (.unsupported (.elementType type) (Location.of? path none)))
        | some r =>
          of (Build.register ctx type)
          if r.spec.category = .opaqueNode then
            let value ← of (Compile.creation ctx e r.spec path)
            let (declaration, name) ← of (Build.declare ctx type value)
            of (Build.release type name)
            return ⟨[declaration], name⟩
          else
            let (head, name) ← elementHead ctx e r.spec path
            of Build.checkCancelled
            let body ← elements path name children
            of (Build.release type name)
            return ⟨head ++ body, name⟩

/-- The instructions that rebuild the children of the element in a variable and append them. -/
def elements (path : List String) (name : String) : List Element → Demanding (List Instr)
  | [] => pure []
  | child :: rest =>
    if Compile.skipsOpaque ctx child then elements path name rest
    else do
      let output ← element path child
      let more ← elements path name rest
      return output.instructions ++ Compile.append name output.name ++ more

end

/-- The instructions that rebuild an element tree. -/
def root (e : Option Element) : Demanding ElementOutput :=
  match e with
  | none => of (Compile.root ctx none)
  | some e => element ctx [] e

variable {ctx e}

theorem complexValue_of {p : Property} {q : String × TypeId}
    (found : p.name = q.1 ∧ p.type? = some q.2) :
    complexValue ctx e p = of (Compile.complexValue ctx e q) := by
  obtain ⟨name, typed⟩ := found
  cases value : e.value? q.1 with
  | none => simp only [complexValue, Compile.complexValue, name, value, of_pure]
  | some raw => simp only [complexValue, name, value, typed, demand_some]

theorem simpleProperty_of {variableName : String} {p : Property} {q : String × Primitive}
    (found : p.name = q.1 ∧ p.primitive? = some q.2) :
    simpleProperty ctx e variableName p = of (Compile.simpleProperty ctx e variableName q) := by
  obtain ⟨name, primitive⟩ := found
  cases value : e.value? q.1 with
  | none => simp only [simpleProperty, Compile.simpleProperty, name, value, of_pure]
  | some raw => simp only [simpleProperty, name, value, primitive, demand_some]

theorem enumProperty_of {variableName : String} {p : Property} {q : String × EnumSpec}
    (found : p.name = q.1 ∧ ∃ t, p.type? = some t ∧ ctx.registry.enums.get? t = some q.2) :
    enumProperty ctx e variableName p = of (Compile.enumProperty ctx e variableName q) := by
  obtain ⟨name, t, typed, declared⟩ := found
  cases value : e.value? q.1 with
  | none => simp only [enumProperty, Compile.enumProperty, name, value, of_pure]
  | some raw =>
    simp only [enumProperty, name, value, typed, Registry.enum?, declared, demand_some]

/-- What the registry finds for an element type is all that its properties need. -/
def Furnishes (r : Registry) : Prop :=
  ∀ t resolved, r.element? t = some resolved → resolved.Divides r.enums resolved.spec.properties

theorem elementHead_of {resolved : ResolvedElement}
    (divides : resolved.Divides ctx.registry.enums resolved.spec.properties) (path : List String) :
    elementHead ctx e resolved.spec path = of (Compile.elementHead ctx e resolved path) := by
  have complex := collect_of (divides.complex.imp fun _ _ => @complexValue_of ctx e _ _)
  have simple (name : String) := collect_of (divides.simple.imp fun _ _ =>
    @simpleProperty_of ctx e name _ _)
  have enums (name : String) := collect_of (divides.enums.imp fun _ _ => @enumProperty_of ctx e name _ _)
  simp only [elementHead, Compile.elementHead, complex, simple, enums, of_bind, of_pure]

theorem elements_of {path : List String} {name : String} {es : List Element}
    (each : ∀ c ∈ es, element ctx path c = of (Compile.element ctx path c)) :
    elements ctx path name es = of (Compile.elements ctx path name es) := by
  induction es with
  | nil => rw [elements, Compile.elements, of_pure]
  | cons c rest ih =>
    have others := ih fun d member => each d (List.mem_cons_of_mem c member)
    rw [elements, Compile.elements]
    split
    · exact others
    · rw [each c List.mem_cons_self, others]
      simp only [of_bind, of_pure]

theorem element_of (furnishes : Furnishes ctx.registry) (e : Element) :
    ∀ path, element ctx path e = of (Compile.element ctx path e) := by
  induction e using Element.induction with
  | step e ih =>
    intro path
    have below (path : List String) (name : String) :
        elements ctx path name e.children = of (Compile.elements ctx path name e.children) :=
      elements_of fun c member => ih c member path
    obtain ⟨type, children, properties, declarations, text, payload, rawKind, markup⟩ := e
    rw [element, Compile.element, of_bind]
    congr 1
    funext _
    dsimp only
    split
    · rfl
    · rw [of_bind]
      congr 1
      funext output
      cases output with
      | some output => rfl
      | none =>
        dsimp only
        cases known : ctx.registry.element? type with
        | none => rfl
        | some r =>
          dsimp only
          rw [of_bind]
          congr 1
          funext _
          split
          · simp only [of_bind, of_pure]
          · rw [elementHead_of (furnishes _ _ known)]
            simp only [of_bind, of_pure, below]

theorem root_of (furnishes : Furnishes ctx.registry) (e : Option Element) :
    root ctx e = of (Compile.root ctx e) := by
  cases e with
  | none => rfl
  | some e => exact element_of furnishes e []

end Demanding

open Property

/-- The properties of an element type in one role, in the order in which they are declared. -/
def Schema.inRole (s : Schema) (role : Kind) (spec : ElementSpec) : List Property :=
  Property.inRole s.declaresEnum role spec.properties

/-- A property has a form only with what its kind needs. A schema has a registry just if no type is
declared twice in one section and each property of kind enum names a declared enum. The registry
then finds each declared element type, with its properties divided by their roles, in order, each
with what its role needs; so rebuilding elements never stops for something missing. -/
theorem resolution_exact (s : Schema) :
    (∀ name kind primitive type, (∃ p, ofParts name kind primitive type = .ok p) ↔
      kind.fits primitive type = true) ∧
    ((∃ fault, Registry.build s = .error fault) ↔
      ¬ s.Distinct ∨ ∃ spec ∈ s.elements, ∃ p ∈ spec.properties, p.Stray s.declaresEnum) ∧
    ∀ r, Registry.build s = .ok r →
      (∀ t e, r.element? t = some e → e.spec ∈ s.elements ∧ e.spec.type = t) ∧
      (∀ spec ∈ s.elements, ∃ e, r.element? spec.type = some e ∧ e.spec = spec ∧
        (s.inRole .simple spec ++ s.inRole .complex spec ++ s.inRole .enum spec).Perm
          spec.properties ∧
        Matches (·.primitive? = some ·) (s.inRole .simple spec) e.simple ∧
        Matches (·.type? = some ·) (s.inRole .complex spec) e.complex ∧
        Matches (fun p enum => ∃ t, p.type? = some t ∧ r.enum? t = some enum)
          (s.inRole .enum spec) e.enums) ∧
      ∀ settings handlers e w, Demanding.root ⟨settings, r, handlers⟩ e w =
        some (Compile.root ⟨settings, r, handlers⟩ e w) := by
  refine ⟨fun _ _ _ _ => ofParts_ok_iff, ?_, fun r built => ⟨?_, fun spec member => ?_, ?_⟩⟩
  · have missing : (∃ fault, Registry.build s = .error fault) ↔ ¬ ∃ r, Registry.build s = .ok r := by
      cases Registry.build s <;> simp
    rw [missing, Registry.build_ok_iff]
    simp only [not_and_or, not_forall, not_not, exists_prop]
  · intro t e found
    obtain ⟨member, same, -⟩ := Registry.element?_divides built found
    exact ⟨member, same⟩
  · obtain ⟨e, found, rfl⟩ := Registry.element?_of_mem built member
    obtain ⟨-, -, divides⟩ := Registry.element?_divides built found
    have declared := Registry.contains_declared (Registry.build_ok built).1
    obtain ⟨simple, complex, enums⟩ := divides
    rw [declared] at simple complex enums
    exact ⟨e, found, rfl, inRole_perm _ _, simple, complex, enums⟩
  · intro settings handlers e w
    have furnishes : Demanding.Furnishes (Context.mk settings r handlers).registry :=
      fun t e found => (Registry.element?_divides built found).2.2
    exact congrFun (Demanding.root_of furnishes e) w

/-- An element type with a property of each kind, and a complex one of the type of an enum. -/
def mixedSpec : ElementSpec :=
  ⟨.plain "N" "A", .regular, none,
    [⟨"kept", .complex (.plain "N" "C") none⟩, ⟨"coded", .complex (.plain "N" "E") none⟩,
      ⟨"plain", .simple .string none⟩, ⟨"named", .enum (.plain "N" "E") none⟩], ""⟩

def mixedSchema : Schema :=
  { Schema.empty with elements := [mixedSpec], enums := [⟨.plain "N" "E", .ofList [("x", "X")]⟩] }

theorem resolution_of_mixed : ∃ r e, Registry.build mixedSchema = .ok r ∧
    r.element? mixedSpec.type = some e ∧
    Matches (·.primitive? = some ·) [⟨"plain", .simple .string none⟩] e.simple ∧
    Matches (·.type? = some ·) [⟨"kept", .complex (.plain "N" "C") none⟩] e.complex ∧
    Matches (fun p enum => ∃ t, p.type? = some t ∧ r.enum? t = some enum)
      [⟨"coded", .complex (.plain "N" "E") none⟩, ⟨"named", .enum (.plain "N" "E") none⟩]
      e.enums := by
  obtain ⟨r, built⟩ : ∃ r, Registry.build mixedSchema = .ok r := ⟨_, rfl⟩
  obtain ⟨-, each, -⟩ := (resolution_exact mixedSchema).2.2 r built
  obtain ⟨e, found, -, -, simple, complex, enums⟩ := each mixedSpec (List.mem_singleton_self _)
  exact ⟨r, e, built, found, simple, complex, enums⟩

end DocScript
