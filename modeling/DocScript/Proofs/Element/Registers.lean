import DocScript.Proofs.Element.Plan
import DocScript.Proofs.Naming.Registration
import DocScript.Proofs.Step

/-!
# What the work on an element registers

Whatever a step does to the table of namespaces is a sequence of registrations, whether it ends well
or not. So nothing that is registered is ever lost, and every property of tables that registrations
keep holds throughout a run. Only two namespaces are ever added on their own.
-/

namespace DocScript

/-- The namespaces that are added without a type: those of dates, addresses and streams. -/
def plainSpaces : List String := ["System", "System.IO"]

/-- A table is extended by registrations, of which only those of a few namespaces are plain. -/
def Namespaces.Reaches (schema : Registry) (ns ns' : Namespaces) : Prop :=
  ∃ calls : List Registration, (∀ space, .space space ∈ calls → space ∈ plainSpaces) ∧
    ns' = performAll schema ns calls

namespace Namespaces.Reaches

variable {schema : Registry} {ns ns' ns'' : Namespaces}

theorem refl (schema : Registry) (ns : Namespaces) : Reaches schema ns ns := ⟨[], nofun, rfl⟩

theorem trans (h : Reaches schema ns ns') (h' : Reaches schema ns' ns'') :
    Reaches schema ns ns'' := by
  obtain ⟨calls, listed, rfl⟩ := h
  obtain ⟨more, listed', rfl⟩ := h'
  refine ⟨calls ++ more, fun space member => ?_, (performAll_append schema ns calls more).symm⟩
  rcases List.mem_append.mp member with early | late
  · exact listed space early
  · exact listed' space late

theorem register (schema : Registry) (ns : Namespaces) (t : TypeId) :
    Reaches schema ns (ns.register schema t) :=
  ⟨[.type t], fun space member => by simp at member, rfl⟩

theorem addPlain (schema : Registry) (ns : Namespaces) {space : String}
    (member : space ∈ plainSpaces) : Reaches schema ns (ns.addPlain space) := by
  refine ⟨[.space space], fun other listed => ?_, rfl⟩
  obtain rfl : other = space := by simpa using listed
  exact member

theorem le (h : Reaches schema ns ns') : ns ≤ ns' := by
  obtain ⟨calls, _, rfl⟩ := h
  exact le_performAll schema ns calls

end Namespaces.Reaches

namespace Step

variable {σ α β : Type} {table : σ → Namespaces} {schema : Registry}

/-- A step only registers, whether it fails or not. -/
def Extends (table : σ → Namespaces) (schema : Registry) (m : Step σ α) : Prop :=
  ∀ s, Namespaces.Reaches schema (table s) (table (m s).2)

theorem Extends.reaches {m : Step σ α} (h : Extends table schema m) {s s' : σ}
    {result : Except Failure α} (ran : m s = (result, s')) :
    Namespaces.Reaches schema (table s) (table s') := by
  have reached := h s
  rwa [ran] at reached

theorem Extends.le {m : Step σ α} (h : Extends table schema m) {s s' : σ}
    {result : Except Failure α} (ran : m s = (result, s')) : table s ≤ table s' :=
  (h.reaches ran).le

theorem extends_of_same {m : Step σ α} (same : ∀ s, table (m s).2 = table s) :
    Extends table schema m := by
  intro s
  rw [same]
  exact .refl schema (table s)

theorem extends_pure (a : α) : Extends table schema (pure a : Step σ α) :=
  extends_of_same fun _ => rfl

theorem extends_fail (e : Failure) : Extends table schema (fail e : Step σ α) :=
  extends_of_same fun _ => rfl

theorem extends_read (f : σ → α) : Extends table schema (read f) :=
  extends_of_same fun _ => rfl

theorem Extends.bind {m : Step σ α} {f : α → Step σ β} (first : Extends table schema m)
    (next : ∀ a, Extends table schema (f a)) : Extends table schema (m >>= f) := by
  intro s
  rw [bind_eq]
  cases ran : m s with
  | mk result t =>
    have start := first.reaches ran
    -- A step that fails has registered what it did before, so both results matter.
    cases result with
    | ok a => exact start.trans (next a t)
    | error e => exact start

theorem extends_collect {f : α → Step σ (List β)} (each : ∀ a, Extends table schema (f a))
    (as : List α) : Extends table schema (collect f as) := by
  induction as with
  | nil => exact extends_pure []
  | cons a rest ih =>
    rw [collect_cons]
    exact (each a).bind fun _ => ih.bind fun _ => extends_pure _

end Step

open Step

namespace Build

variable {α : Type} {ctx : Context} {t : TypeId}

abbrev Extends (ctx : Context) (m : Build α) : Prop :=
  Step.Extends (·.shared.namespaces) ctx.registry m

theorem extends_register : Build.Extends ctx (register ctx t) := fun _ => .register _ _ t

theorem extends_addPlain {space : String} (member : space ∈ plainSpaces) :
    Build.Extends ctx (addPlain space) := fun _ => .addPlain _ _ member

theorem extends_typeName : Build.Extends ctx (typeName ctx t) := extends_read _

theorem extends_checkCancelled : Build.Extends ctx checkCancelled := by
  apply extends_of_same
  intro w
  unfold checkCancelled
  split <;> rfl

theorem extends_release (ctx : Context) {name : String} : Build.Extends ctx (release t name) :=
  extends_of_same fun _ => rfl

theorem extends_declare {value : Expr} : Build.Extends ctx (declare ctx t value) := by
  have taken : Build.Extends ctx (acquire ctx t) := extends_of_same fun _ => rfl
  unfold declare
  refine taken.bind fun name => ?_
  split
  split
  · exact extends_pure _
  · exact extends_typeName.bind fun _ => extends_pure _

end Build

namespace Compile

open Build

variable {ctx : Context} {e : Element} {path : List String}

theorem extends_creation {spec : ElementSpec} : Build.Extends ctx (creation ctx e spec path) := by
  unfold creation
  refine extends_typeName.bind fun name => ?_
  split
  · exact extends_pure _
  · exact extends_pure _
  · exact extends_pure _
  · dsimp only
    split
    · exact extends_fail _
    · exact extends_register.bind fun _ => extends_typeName.bind fun _ => extends_pure _

theorem extends_ownedSteps (type : TypeId) (property : String) (arguments : List String)
    (fields : List (String × String)) :
    Build.Extends ctx (ownedSteps ctx type property arguments fields) :=
  extends_register.bind fun _ => extends_typeName.bind fun _ => extends_declare.bind fun _ =>
    extends_pure _

theorem extends_complexValue (p : String × TypeId) : Build.Extends ctx (complexValue ctx e p) := by
  rw [complexValue_eq]
  split
  · exact extends_pure _
  · exact extends_ownedSteps _ _ _ _

theorem extends_markupBag : Build.Extends ctx (markupBag ctx e) := by
  rw [markupBag_eq]
  split
  · exact extends_pure _
  · exact extends_ownedSteps _ _ _ _

theorem extends_momentExpr (m : Calendar.Moment) : Build.Extends ctx (momentExpr ctx m) := by
  have listed : momentType.space ∈ plainSpaces := by decide
  unfold momentExpr
  refine (extends_addPlain listed).bind fun _ => extends_typeName.bind fun _ => ?_
  split
  · exact extends_fail _
  · exact extends_typeName.bind fun _ => extends_pure _

theorem extends_simpleProperty (name : String) (p : String × Primitive) :
    Build.Extends ctx (simpleProperty ctx e name p) := by
  unfold simpleProperty
  split
  · exact extends_pure _
  · split
    · exact extends_pure _
    · exact extends_pure _
    · exact (extends_momentExpr _).bind fun _ => extends_pure _

theorem extends_enumProperty (name : String) (p : String × EnumSpec) :
    Build.Extends ctx (enumProperty ctx e name p) := by
  unfold enumProperty
  split
  · exact extends_pure _
  · refine extends_register.bind fun _ => extends_typeName.bind fun _ => ?_
    split <;> exact extends_pure _

theorem extends_wire (ctx : Context) (name : String) (x : Wire) : Build.Extends ctx (wire name x) :=
  (extends_release ctx).bind fun _ => extends_pure _

theorem extends_elementHead {r : ResolvedElement} :
    Build.Extends ctx (elementHead ctx e r path) := by
  unfold elementHead
  refine (extends_collect extends_complexValue _).bind fun values => ?_
  refine extends_markupBag.bind fun bag => extends_creation.bind fun value => ?_
  refine extends_declare.bind fun made => ?_
  refine (extends_collect (extends_simpleProperty _) _).bind fun simple => ?_
  refine (extends_collect (extends_wire ctx _) _).bind fun wires => ?_
  exact (extends_collect (extends_enumProperty _) _).bind fun enums => extends_pure _

theorem extends_elements {es : List Element}
    (each : ∀ c ∈ es, ∀ path, Build.Extends ctx (element ctx path c)) (name : String) :
    Build.Extends ctx (elements ctx path name es) := by
  induction es with
  | nil =>
    rw [elements]
    exact extends_pure []
  | cons c rest ih =>
    have others := ih fun d member => each d (List.mem_cons_of_mem c member)
    rw [elements]
    split
    · exact others
    · exact (each c List.mem_cons_self path).bind fun out => others.bind fun more => extends_pure _

theorem extends_element (plain : ctx.handlers = .none) (e : Element) :
    ∀ path, Build.Extends ctx (element ctx path e) := by
  induction e using Element.induction with
  | step e ih =>
    intro path
    obtain ⟨type, children, properties, declarations, text, payload, rawKind, markup⟩ := e
    rw [element]
    refine extends_checkCancelled.bind fun _ => ?_
    simp only [handled_plain plain, Step.pure_then]
    split
    · exact extends_pure _
    · split
      · exact extends_fail _
      · refine extends_register.bind fun _ => ?_
        split
        · exact extends_creation.bind fun _ => extends_declare.bind fun _ =>
            (extends_release ctx).bind fun _ => extends_pure _
        · refine extends_elementHead.bind fun head => extends_checkCancelled.bind fun _ => ?_
          exact (extends_elements ih head.2).bind fun body => (extends_release ctx).bind fun _ =>
            extends_pure _

end Compile

end DocScript
