import DocScript.Compile.Element
import DocScript.Proofs.Naming.Stocks

/-!
# Plans of elements

A plan says, for each element of a tree that is not skipped, which objects are made for it, which
variables hold them and what is set on them. It is made without names of variables, without
registering anything and without failing. `Plan.code` writes a plan out; that a run which ends well
writes out the plan of its tree is shown in `DocScript.Proofs.Element.Run`.
-/

namespace DocScript

structure Spelling where
  typeName : TypeId → String
  variableName : Variable → String

def Namespaces.spelling (policy : NamePolicy) (ns : Namespaces) : Spelling :=
  ⟨ns.typeName policy, (·.name ns)⟩

@[simp] theorem Namespaces.spelling_variableName (policy : NamePolicy) (ns : Namespaces)
    (v : Variable) : (ns.spelling policy).variableName v = v.name ns := rfl

/-- An object and the variable that it is put into; `again` if the variable was in use before. -/
structure Creation where
  holder : Variable
  again : Bool
  made : Expr

/-- An object that becomes the value of a property, with the texts of its own fields. -/
structure Owned where
  type : TypeId
  property : String
  made : Expr
  fields : List (String × String)

/-- An object that becomes the value of a property, in its variable. -/
structure Attachment where
  creation : Creation
  property : String
  fields : List (String × String)

/-- What becomes of a simple or enum property: it is set to something that is no variable, or a
comment says why it is not set; the comment may quote the variable of the element. -/
inductive Setting where
  | member (name : String) (value : Expr) (plain : ∀ x, value ≠ .var x)
  | comment (text : String → String)

/-- The plan of an element: an opaque one is only made. -/
inductive Plan where
  | bare (creation : Creation)
  | full (values : List Attachment) (creation : Creation) (declarations : List (String × String))
      (simple enums : List Setting) (children : List Plan)

/-- A property of trees holds if each tree has it whenever its children do. -/
theorem Element.induction {motive : Element → Prop}
    (step : ∀ e : Element, (∀ c ∈ e.children, motive c) → motive e) (e : Element) : motive e :=
  step e fun c _ => Element.induction step c
termination_by sizeOf e
decreasing_by
  obtain ⟨type, children, properties, declarations, text, payload, rawKind, markup⟩ := e
  have smaller := List.sizeOf_lt_of_mem ‹_›
  simp only [Element.mk.sizeOf_spec] at smaller ⊢
  omega

namespace Plan

/-- The object that stands for the element itself. -/
def creation : Plan → Creation
  | bare c => c
  | full _ c _ _ _ _ => c

def values : Plan → List Attachment
  | bare _ => []
  | full vs _ _ _ _ _ => vs

def children : Plan → List Plan
  | bare _ => []
  | full _ _ _ _ _ ps => ps

def holder (p : Plan) : Variable := p.creation.holder

/-- A property of plans holds if each plan has it whenever its children do. -/
theorem induction {motive : Plan → Prop}
    (step : ∀ p : Plan, (∀ c ∈ p.children, motive c) → motive p) (p : Plan) : motive p :=
  step p fun c _ => Plan.induction step c
termination_by sizeOf p
decreasing_by
  cases p with
  | bare c => contradiction
  | full vs c ds ss es ps =>
    have smaller := List.sizeOf_lt_of_mem ‹_›
    simp only [children, full.sizeOf_spec] at smaller ⊢
    omega

end Plan

/-! ### Writing a plan out -/

def Creation.instr (sp : Spelling) (c : Creation) : Instr :=
  if c.again then .assign (.var (sp.variableName c.holder)) none c.made
  else .declare (sp.variableName c.holder) (sp.typeName c.holder.type)
    (c.holder.type.args.map (·.name)) (some c.made)

def Attachment.holder (v : Attachment) : Variable := v.creation.holder

def Attachment.code (sp : Spelling) (v : Attachment) : List Instr :=
  v.creation.instr sp ::
    (v.fields.map fun (field, text) => .set (sp.variableName v.holder) field (.text text)) ++ [.blank]

/-- The instruction that makes a value the value of its property. -/
def Attachment.wiring (sp : Spelling) (owner : String) (v : Attachment) : Instr :=
  .set owner v.property (.var (sp.variableName v.holder))

/-- The instruction for a simple or enum property. -/
def Setting.instr (owner : String) : Setting → Instr
  | member name value _ => .set owner name value
  | comment text => .comment (text owner)

def declarationInstr (owner : String) (d : String × String) : Instr :=
  .invokeOn (some (.var owner)) "AddNamespaceDeclaration" [.text d.1, .text d.2]

namespace Plan

/-- The name of the variable that holds the element. -/
def name (sp : Spelling) (p : Plan) : String := sp.variableName p.holder

def headCode (sp : Spelling) (vs : List Attachment) (c : Creation) (ds : List (String × String))
    (simple enums : List Setting) : List Instr :=
  let owner := sp.variableName c.holder
  vs.flatMap (·.code sp) ++ c.instr sp :: ds.map (declarationInstr owner)
    ++ simple.map (·.instr owner) ++ vs.map (·.wiring sp owner) ++ enums.map (·.instr owner)
    ++ [.blank]

mutual

def code (sp : Spelling) : Plan → List Instr
  | bare c => [c.instr sp]
  | full vs c ds simple enums ps =>
    headCode sp vs c ds simple enums ++ codeBelow sp (sp.variableName c.holder) ps

/-- The instructions of the plans of the children, each followed by those that append the child. -/
def codeBelow (sp : Spelling) (owner : String) : List Plan → List Instr
  | [] => []
  | p :: rest => code sp p ++ Compile.append owner (p.name sp) ++ codeBelow sp owner rest

end

/-- What an element gives that is rebuilt by a plan, or skipped. -/
def output (sp : Spelling) : Option Plan → ElementOutput
  | none => ⟨[], ""⟩
  | some p => ⟨p.code sp, p.name sp⟩

end Plan

namespace Compile

/-! ### Making a plan -/

/-- The expression that creates an element, by its category. -/
def madeExpr (ctx : Context) (typeName : TypeId → String) (e : Element) (spec : ElementSpec) : Expr :=
  let payload := Expr.text (e.payload.getD "")
  match spec.category with
  | .regular => .construct (typeName e.type) [] []
  | .leafText => .construct (typeName e.type) [] [.text (e.text.getD "")]
  | .opaqueNode => .call (some (.type (typeName e.type))) spec.factory [] [payload]
  | .rawPayload =>
    .construct (typeName e.type) []
      [.constant (typeName ctx.registry.rawKind) (e.rawKind.getD ""), payload]

/-- The object for a complex property that has a value. -/
def complexObject (typeName : TypeId → String) (e : Element) (p : String × TypeId) : Option Owned :=
  (e.value? p.1).map fun raw =>
    ⟨p.2, p.1, .construct (typeName p.2) (p.2.args.map (·.name)) [], [("InnerText", raw.display)]⟩

/-- The object that holds the markup-compatibility rules, if there are any. -/
def bagObject (typeName : TypeId → String) (bag : BagSpec) (e : Element) : Option Owned :=
  e.markup.map fun rules =>
    ⟨bag.type, bag.property, .construct (typeName bag.type) [] [], rules.present⟩

/-- The objects that an element owns, in the order in which they are made. -/
def ownedObjects (ctx : Context) (typeName : TypeId → String) (e : Element) (r : ResolvedElement) :
    List Owned :=
  r.complex.filterMap (complexObject typeName e) ++ (bagObject typeName ctx.registry.bag e).toList

def momentObject (typeName : TypeId → String) (m : Calendar.Moment) : Expr :=
  .construct (typeName momentType) []
    [.primitive (.int (m.ticks?.getD 0)), .constant (typeName momentKindType) m.zone.name]

/-- What becomes of a simple property that has a value. -/
def simpleSetting (typeName : TypeId → String) (e : Element) (p : String × Primitive) :
    Option Setting :=
  (e.value? p.1).map fun raw =>
    match (Raw.json raw).coerce? p.2 with
    | none => .comment fun _ => mismatchMessage p.1 raw.display
    | some (.literal l) => .member p.1 (.primitive l) nofun
    | some (.moment m) => .member p.1 (momentObject typeName m) nofun

/-- What becomes of an enum property that has a value. -/
def enumSetting (typeName : TypeId → String) (e : Element) (p : String × EnumSpec) : Option Setting :=
  (e.value? p.1).map fun raw =>
    match p.2.constant? raw with
    | none => .comment fun name => enumComment p.1 name (typeName p.2.type) raw.display
    | some constant => .member p.1 (.constant (typeName p.2.type) constant) nofun

def takeAll (unique : Bool) : List Owned → Stocks → List Attachment × Stocks
  | [], stocks => ([], stocks)
  | o :: rest, stocks =>
    let taken := stocks.take unique o.type
    let others := takeAll unique rest taken.2
    (⟨⟨taken.1.1, taken.1.2, o.made⟩, o.property, o.fields⟩ :: others.1, others.2)

def giveAll (unique : Bool) (values : List Attachment) (stocks : Stocks) : Stocks :=
  values.foldl (fun stocks v => stocks.give unique v.holder) stocks

/-- Takes the variables of an element. Those of its values are given back as soon as the values
have been set on it. -/
def takeHead (unique : Bool) (type : TypeId) (made : Expr) (os : List Owned) (stocks : Stocks) :
    (List Attachment × Creation) × Stocks :=
  let held := takeAll unique os stocks
  let taken := held.2.take unique type
  ((held.1, ⟨taken.1.1, taken.1.2, made⟩), giveAll unique held.1 taken.2)

mutual

/-- The plan of an element, unless it is skipped, and the variables after it. -/
def plan (ctx : Context) (typeName : TypeId → String) : Element → Stocks → Option Plan × Stocks
  | e@⟨type, children, _, _, _, _, _, _⟩, stocks =>
    let unique := ctx.settings.uniqueNames
    match ctx.registry.element? type with
    | none => (none, stocks)
    | some r =>
      let made := madeExpr ctx typeName e r.spec
      if skips ctx.settings (some r) e then (none, stocks)
      else if r.spec.category = .opaqueNode then
        let taken := stocks.take unique type
        (some (.bare ⟨taken.1.1, taken.1.2, made⟩), taken.2.give unique taken.1.1)
      else
        let head := takeHead unique type made (ownedObjects ctx typeName e r) stocks
        let below := plans ctx typeName children head.2
        (some (.full head.1.1 head.1.2 e.declarations.entries
            (r.simple.filterMap (simpleSetting typeName e))
            (r.enums.filterMap (enumSetting typeName e)) below.1),
          below.2.give unique head.1.2.holder)

/-- The plans of the elements that are not skipped, in order. -/
def plans (ctx : Context) (typeName : TypeId → String) :
    List Element → Stocks → List Plan × Stocks
  | [], stocks => ([], stocks)
  | e :: rest, stocks =>
    let first := plan ctx typeName e stocks
    let others := plans ctx typeName rest first.2
    (first.1.toList ++ others.1, others.2)

end

/-- The element contributes nothing: its type is unknown, or it is skipped. -/
def absent (ctx : Context) (e : Element) : Bool :=
  (ctx.registry.element? e.type).all fun r => skips ctx.settings (some r) e

/-- The work on an object that becomes the value of a property, which is the same for values and for
the bag of an element: it is made, its fields are set and a blank line follows. -/
def ownedSteps (ctx : Context) (type : TypeId) (property : String) (arguments : List String)
    (fields : List (String × String)) : Build (List (Instr × Option Wire)) := do
  Build.register ctx type
  let typeName ← Build.typeName ctx type
  let (declaration, name) ← Build.declare ctx type (.construct typeName arguments [])
  let settings := fields.map fun (field, text) => (Instr.set name field (.text text), none)
  return (declaration, some ⟨type, property, name⟩) :: settings ++ [(.blank, none)]

theorem complexValue_eq (ctx : Context) (e : Element) (p : String × TypeId) :
    complexValue ctx e p =
      match e.value? p.1 with
      | none => pure []
      | some raw =>
        ownedSteps ctx p.2 p.1 (p.2.args.map (·.name)) [("InnerText", raw.display)] := rfl

theorem markupBag_eq (ctx : Context) (e : Element) :
    markupBag ctx e =
      match e.markup with
      | none => pure []
      | some rules =>
        ownedSteps ctx ctx.registry.bag.type ctx.registry.bag.property [] rules.present := rfl

theorem handled_plain {ctx : Context} (plain : ctx.handlers = .none) (e : Element) :
    handled ctx e = pure none := by
  simp only [handled, plain]
  rfl

/-- An element has no plan, or is only made, or is made with everything that belongs to it. -/
theorem plan_cases (ctx : Context) (typeName : TypeId → String) (e : Element) (stocks : Stocks) :
    (absent ctx e = true ∧ plan ctx typeName e stocks = (none, stocks)) ∨
    ∃ r, ctx.registry.element? e.type = some r ∧ skips ctx.settings (some r) e = false ∧
      ((r.spec.category = .opaqueNode ∧
        plan ctx typeName e stocks =
          let taken := stocks.take ctx.settings.uniqueNames e.type
          (some (.bare ⟨taken.1.1, taken.1.2, madeExpr ctx typeName e r.spec⟩),
            taken.2.give ctx.settings.uniqueNames taken.1.1)) ∨
      (r.spec.category ≠ .opaqueNode ∧
        plan ctx typeName e stocks =
          let head := takeHead ctx.settings.uniqueNames e.type (madeExpr ctx typeName e r.spec)
            (ownedObjects ctx typeName e r) stocks
          let below := plans ctx typeName e.children head.2
          (some (.full head.1.1 head.1.2 e.declarations.entries
              (r.simple.filterMap (simpleSetting typeName e))
              (r.enums.filterMap (enumSetting typeName e)) below.1),
            below.2.give ctx.settings.uniqueNames head.1.2.holder))) := by
  obtain ⟨type, children, properties, declarations, text, payload, rawKind, markup⟩ := e
  rw [plan]
  cases known : ctx.registry.element? type with
  | none => exact Or.inl ⟨by simp [absent, known], rfl⟩
  | some r =>
    cases skipped : skips ctx.settings (some r)
        ⟨type, children, properties, declarations, text, payload, rawKind, markup⟩ with
    | true => exact Or.inl ⟨by simp [absent, known, skipped], by simp [skipped]⟩
    | false =>
      refine Or.inr ⟨r, rfl, skipped, ?_⟩
      by_cases only : r.spec.category = .opaqueNode
      · exact Or.inl ⟨only, by simp [skipped, only]⟩
      · exact Or.inr ⟨only, by simp [skipped, only]⟩

end Compile

end DocScript
