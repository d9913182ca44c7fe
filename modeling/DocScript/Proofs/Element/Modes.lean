import DocScript.Proofs.Element.Plan
import DocScript.Proofs.Lockstep
import DocScript.Proofs.Naming.Full
import DocScript.Proofs.Script.Alike

/-!
# Elements in both modes of naming

The work on an element is run in the mode in which every name is new and in the other one, side by
side. Both register the same namespaces; their pools have nothing to do with each other, except that
no name in them is empty.
-/

namespace DocScript

open Step Instr

/-- The context in one mode of naming. -/
def Context.inMode (unique : Bool) (ctx : Context) : Context :=
  { ctx with settings := { ctx.settings with uniqueNames := unique } }

namespace Build

variable {ctx : Context} {α : Type}

/-- Workspaces that differ in the names that their pools hold. -/
structure Like (w w' : Workspace) : Prop where
  shared : w.shared = w'.shared
  full : w.pools.Full
  full' : w'.pools.Full

abbrev Matches {α β : Type} (R : α → β → Prop) (m : Build α) (m' : Build β) : Prop :=
  Step.Matches Like R m m'

/-- Names for a variable of a type; they are empty only if that of the type is. -/
def Named (t : TypeId) (name name' : String) : Prop := t.name ≠ "" → name ≠ "" ∧ name' ≠ ""

theorem Named.empty_iff {t : TypeId} {name name' : String} (h : Named t name name')
    (named : t.name ≠ "") : name = "" ↔ name' = "" :=
  iff_of_false (h named).1 (h named).2

theorem matches_checkCancelled : Matches Eq checkCancelled checkCancelled := by
  intro w w' like
  unfold checkCancelled
  rw [like.shared]
  split
  · exact .error _ w w'
  · exact .ok rfl like

theorem matches_onNamespaces (f : Namespaces → Namespaces) :
    Matches Eq (onNamespaces f) (onNamespaces f) := by
  intro w w' like
  refine .ok rfl ⟨?_, like.full, like.full'⟩
  dsimp only
  rw [like.shared]

theorem matches_register (t : TypeId) :
    Matches Eq (register (ctx.inMode true) t) (register (ctx.inMode false) t) :=
  matches_onNamespaces _

theorem matches_typeName (t : TypeId) :
    Matches Eq (typeName (ctx.inMode true) t) (typeName (ctx.inMode false) t) := by
  refine matches_read fun w w' like => ?_
  rw [like.shared]
  rfl

theorem matches_release (t : TypeId) (name name' : String) :
    Matches (fun _ _ => True) (release t name) (release t name') :=
  matches_change fun _ _ like => ⟨like.shared, like.full.release t name, like.full'.release t name'⟩

theorem matches_acquire (t : TypeId) :
    Matches (fun taken taken' => taken.2 = false ∧ Named t taken.1 taken'.1)
      (acquire (ctx.inMode true) t) (acquire (ctx.inMode false) t) := by
  intro w w' like
  obtain ⟨name, full⟩ := like.full.acquire w.shared.namespaces true t
  obtain ⟨name', full'⟩ := like.full'.acquire w'.shared.namespaces false t
  exact .ok ⟨rfl, fun named => ⟨name named, name' named⟩⟩ ⟨like.shared, full, full'⟩

/-- The two modes declare a variable of a type, or one reuses one. -/
def Declared (t : TypeId) (made made' : Instr × String) : Prop :=
  made.1.Modes made'.1 ∧ Named t made.2 made'.2

theorem matches_declare (t : TypeId) (value : Expr) :
    Matches (Declared t) (declare (ctx.inMode true) t value) (declare (ctx.inMode false) t value) := by
  unfold declare
  refine (matches_acquire t).bind fun ⟨name, existing⟩ ⟨name', existing'⟩ ⟨new, named⟩ => ?_
  change existing = false at new
  subst new
  cases existing' with
  | false =>
    refine (matches_typeName t).bind_same fun typeName => ?_
    exact matches_pure ⟨modes_declare typeName (t.args.map (·.name)) value false, named⟩
  | true =>
    -- Only the mode that declares a variable reads the name of its type, which changes nothing.
    intro w w' like
    exact .ok ⟨modes_declare _ (t.args.map (·.name)) value true, named⟩ like

end Build

namespace Compile

variable {ctx : Context} {name name' : String}

open Build (Matches Like Named Declared)

abbrev MatchesCode (m m' : Build (List Instr)) : Prop := Matches ModesAll m m'

theorem matches_creation (e : Element) (spec : ElementSpec) (path : List String) :
    Matches Eq (creation (ctx.inMode true) e spec path) (creation (ctx.inMode false) e spec path) := by
  unfold creation
  refine (Build.matches_typeName e.type).bind_same fun typeName => ?_
  cases spec.category with
  | regular => exact matches_pure rfl
  | leafText => exact matches_pure rfl
  | opaqueNode => exact matches_pure rfl
  | rawPayload =>
    dsimp only
    split
    · exact matches_fail _
    · refine (Build.matches_register _).bind_same fun _ => ?_
      refine (Build.matches_typeName _).bind_same fun owner => ?_
      exact matches_pure rfl

theorem matches_momentExpr (m : Calendar.Moment) :
    Matches Eq (momentExpr (ctx.inMode true) m) (momentExpr (ctx.inMode false) m) := by
  unfold momentExpr
  refine (Build.matches_onNamespaces _).bind_same fun _ => ?_
  refine (Build.matches_typeName _).bind_same fun typeName => ?_
  split
  · exact matches_fail _
  · refine (Build.matches_typeName _).bind_same fun kindName => ?_
    exact matches_pure rfl

/-- What is made for an object in the two modes, and how it will be wired. -/
structure Paired (a b : Instr × Option Wire) : Prop where
  code : a.1.Modes b.1
  wire : Option.Rel (fun w w' => w.type = w'.type ∧ w.property = w'.property) a.2 b.2

theorem matches_ownedSteps (type : TypeId) (property : String) (arguments : List String)
    (fields : List (String × String)) :
    Matches (List.Forall₂ Paired) (ownedSteps (ctx.inMode true) type property arguments fields)
      (ownedSteps (ctx.inMode false) type property arguments fields) := by
  unfold ownedSteps
  refine (Build.matches_register _).bind_same fun _ => ?_
  refine (Build.matches_typeName _).bind_same fun typeName => ?_
  refine (Build.matches_declare _ _).bind ?_
  rintro ⟨made, own⟩ ⟨made', own'⟩ ⟨code, _⟩
  have last : Paired (.blank, none) (.blank, none) := ⟨modes_blank, .none⟩
  refine matches_pure (.cons ⟨code, .some ⟨rfl, rfl⟩⟩ (forall₂_append ?_ (.cons last .nil)))
  exact forall₂_map_same fun field _ => ⟨modes_set rfl, .none⟩

theorem matches_complexValue (e : Element) (property : String × TypeId) :
    Matches (List.Forall₂ Paired) (complexValue (ctx.inMode true) e property)
      (complexValue (ctx.inMode false) e property) := by
  rw [complexValue_eq, complexValue_eq]
  split
  · exact matches_pure .nil
  · exact matches_ownedSteps _ _ _ _

theorem matches_markupBag (e : Element) :
    Matches (List.Forall₂ Paired) (markupBag (ctx.inMode true) e) (markupBag (ctx.inMode false) e) := by
  rw [markupBag_eq, markupBag_eq]
  split
  · exact matches_pure .nil
  · exact matches_ownedSteps _ _ _ _

theorem matches_simpleProperty (e : Element) (property : String × Primitive) :
    MatchesCode (simpleProperty (ctx.inMode true) e name property)
      (simpleProperty (ctx.inMode false) e name' property) := by
  unfold simpleProperty
  split
  · exact matches_pure .nil
  · split
    · exact matches_pure (.cons (modes_comment _) .nil)
    · exact matches_pure (.cons (modes_set rfl) .nil)
    · refine (matches_momentExpr _).bind_same fun value => ?_
      exact matches_pure (.cons (modes_set rfl) .nil)

theorem matches_wire {w w' : Wire} (same : w.type = w'.type ∧ w.property = w'.property) :
    MatchesCode (wire name w) (wire name' w') := by
  obtain ⟨type, property, own⟩ := w
  obtain ⟨type', property', own'⟩ := w'
  obtain ⟨rfl, rfl⟩ := same
  exact (Build.matches_release _ _ _).bind fun _ _ _ => matches_pure (.cons (modes_set rfl) .nil)

theorem matches_enumProperty (e : Element) (property : String × EnumSpec) :
    MatchesCode (enumProperty (ctx.inMode true) e name property)
      (enumProperty (ctx.inMode false) e name' property) := by
  unfold enumProperty
  split
  · exact matches_pure .nil
  · next raw _ =>
    refine (Build.matches_register _).bind_same fun _ => ?_
    refine (Build.matches_typeName _).bind_same fun owner => ?_
    split
    · have quoted : Instr.Modes (.comment (enumComment property.1 name owner raw.display))
          (.comment (enumComment property.1 name' owner raw.display)) :=
        ⟨.comment property.1 name name' owner raw.display, fresh_of_walk rfl rfl⟩
      exact matches_pure (.cons quoted .nil)
    · exact matches_pure (.cons (modes_set rfl) .nil)

theorem modes_declarations (e : Element) : ModesAll (declarations e name) (declarations e name') :=
  forall₂_map_same fun _ _ => modes_invokeOn rfl

theorem modes_append {child child' : String} (same : child = "" ↔ child' = "") :
    ModesAll (append name child) (append name' child') := by
  unfold append
  by_cases empty : child = ""
  · rw [if_pos empty, if_pos (same.mp empty)]
    exact .nil
  · rw [if_neg empty, if_neg fun empty' => empty (same.mpr empty')]
    exact .cons (modes_invokeOn rfl) (.cons modes_blank .nil)

theorem matches_elementHead (e : Element) (r : ResolvedElement) (path : List String) :
    Matches (fun head head' => ModesAll head.1 head'.1 ∧ Named e.type head.2 head'.2)
      (elementHead (ctx.inMode true) e r path) (elementHead (ctx.inMode false) e r path) := by
  unfold elementHead
  refine (matches_collect_same fun p _ => matches_complexValue e p).bind fun values values' made => ?_
  refine (matches_markupBag e).bind fun bag bag' kept => ?_
  refine (matches_creation e r.spec path).bind_same fun value => ?_
  refine (Build.matches_declare e.type value).bind fun ⟨own, name⟩ ⟨own', name'⟩ ⟨new, named⟩ => ?_
  refine (matches_collect_same fun p _ => matches_simpleProperty e p).bind fun simple simple' set => ?_
  have objects : List.Forall₂ Paired (values ++ bag) (values' ++ bag') := forall₂_append made kept
  have wires := List.rel_filterMap (R := Paired) (fun _ _ pair => pair.wire) objects
  refine (matches_collect wires fun _ _ same => matches_wire same).bind fun wired wired' hung => ?_
  refine (matches_collect_same fun p _ => matches_enumProperty e p).bind fun enums enums' chosen => ?_
  have code : ModesAll ((values ++ bag).map (·.1)) ((values' ++ bag').map (·.1)) :=
    List.rel_map (fun _ _ pair => pair.code) objects
  have spaces : ModesAll (declarations e name) (declarations e name') := modes_declarations e
  have first := forall₂_append code (.cons new spaces)
  have settings := forall₂_append (forall₂_append (forall₂_append first set) hung) chosen
  exact matches_pure ⟨forall₂_append settings (.cons modes_blank .nil), named⟩

/-- The outputs of the two modes for an element. -/
structure Outputs (out out' : ElementOutput) : Prop where
  code : ModesAll out.instructions out'.instructions
  skipped : out.name = "" ↔ out'.name = ""

mutual

/-- Both modes do the same work on an element, up to names. -/
theorem matches_element (plain : ctx.handlers = .none) :
    ∀ (e : Element), (∀ t ∈ e.types, t.name ≠ "") → ∀ path : List String,
      Matches Outputs (element (ctx.inMode true) path e) (element (ctx.inMode false) path e)
  | e@⟨type, children, _, _, _, _, _, _⟩, named, path => by
    have own : type.name ≠ "" := named type List.mem_cons_self
    have below := matches_elements plain children fun t member =>
      named t (List.mem_cons_of_mem type member)
    have unhandled (unique : Bool) (e : Element) : handled (ctx.inMode unique) e = pure none :=
      handled_plain plain e
    unfold element
    refine Build.matches_checkCancelled.bind_same fun _ => ?_
    dsimp only
    simp only [unhandled, pure_then]
    have passed (resolved : Option ResolvedElement) (e : Element) :
        skips (ctx.inMode true).settings resolved e = skips (ctx.inMode false).settings resolved e := rfl
    have known : (ctx.inMode true).registry = (ctx.inMode false).registry := rfl
    rw [passed, known]
    split
    · exact matches_pure ⟨.nil, Iff.rfl⟩
    · cases (ctx.inMode false).registry.element? type with
      | none => exact matches_fail _
      | some r =>
        refine (Build.matches_register type).bind_same fun _ => ?_
        split
        · refine (matches_creation _ r.spec _).bind_same fun value => ?_
          refine (Build.matches_declare type value).bind fun ⟨code, name⟩ ⟨code', name'⟩ made => ?_
          refine (Build.matches_release type name name').bind fun _ _ _ => ?_
          exact matches_pure ⟨.cons made.1 .nil, Build.Named.empty_iff made.2 own⟩
        · refine (matches_elementHead _ r _).bind fun ⟨head, name⟩ ⟨head', name'⟩ made => ?_
          refine Build.matches_checkCancelled.bind_same fun _ => ?_
          refine (below _ name name').bind fun body body' code => ?_
          refine (Build.matches_release type name name').bind fun _ _ _ => ?_
          exact matches_pure ⟨forall₂_append made.1 code, Build.Named.empty_iff made.2 own⟩

theorem matches_elements (plain : ctx.handlers = .none) :
    ∀ (es : List Element), (∀ t ∈ Element.typesAll es, t.name ≠ "") →
      ∀ (path : List String) (name name' : String),
      MatchesCode (elements (ctx.inMode true) path name es) (elements (ctx.inMode false) path name' es)
  | [], _, _, _, _ => matches_pure .nil
  | child :: rest, named, path, name, name' => by
    have first := matches_element plain child fun t member =>
      named t (List.mem_append_left _ member)
    have others := matches_elements plain rest fun t member =>
      named t (List.mem_append_right _ member)
    unfold elements
    have same : skipsOpaque (ctx.inMode true) child = skipsOpaque (ctx.inMode false) child := rfl
    rw [same]
    split
    · exact others path name name'
    · refine (first path).bind fun out out' outputs => ?_
      refine (others path name name').bind fun more more' code => ?_
      exact matches_pure (forall₂_append (forall₂_append outputs.code (modes_append outputs.skipped))
        code)

end

end Compile

end DocScript
