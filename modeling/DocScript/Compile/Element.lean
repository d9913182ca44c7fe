import DocScript.Compile.Context
import DocScript.Value.Coerce

/-!
# Elements as instructions

An element is rebuilt after the objects that are the values of its properties: first these and the
bag of markup-compatibility rules, then the element itself, its namespace declarations and its
properties, and then each child, followed by a call that appends it. The name of a variable is
released as soon as its object has been wired to its owner.
-/

namespace DocScript

open Calendar

abbrev Build (α : Type) := Step Workspace α

namespace Build

def checkCancelled : Build Unit := fun w =>
  if w.shared.cancelled then (.error .cancelled, w) else (.ok (), w)

def onNamespaces (f : Namespaces → Namespaces) : Build Unit :=
  Step.change fun w => { w with shared := { w.shared with namespaces := f w.shared.namespaces } }

def register (ctx : Context) (t : TypeId) : Build Unit :=
  onNamespaces (·.register ctx.registry t)

def addPlain (space : String) : Build Unit := onNamespaces (·.addPlain space)

def typeName (ctx : Context) (t : TypeId) : Build String :=
  Step.read fun w => w.shared.namespaces.typeName ctx.settings.policy t

def acquire (ctx : Context) (t : TypeId) : Build (String × Bool) :=
  Step.act fun w =>
    let (taken, pools) := w.pools.acquire w.shared.namespaces ctx.settings.uniqueNames t
    (taken, { w with pools })

def release (t : TypeId) (name : String) : Build Unit :=
  Step.change fun w => { w with pools := w.pools.release t name }

/-- Gives a new variable of a type a value, or a released one of the same type. -/
def declare (ctx : Context) (t : TypeId) (value : Expr) : Build (Instr × String) := do
  let (name, existing) ← acquire ctx t
  if existing then
    return (.assign (.var name) none value, name)
  else
    let typeName ← typeName ctx t
    return (.declare name typeName (t.args.map (·.name)) (some value), name)

end Build

namespace Compile

/-- An object that is the value of a property of an element that does not exist yet. -/
structure Wire where
  type : TypeId
  property : String
  name : String

def momentType : TypeId := .plain "System" "DateTime"

def momentKindType : TypeId := .plain "System" "DateTimeKind"

/-- The element is skipped: it is opaque, or raw payload of a kind that is skipped. -/
def skips (settings : Settings) (resolved : Option ResolvedElement) (e : Element) : Bool :=
  match resolved with
  | none => false
  | some r =>
    match r.spec.category with
    | .opaqueNode => settings.skipOpaque
    | .rawPayload => e.rawKind.any settings.skippedRawKinds.contains
    | _ => false

/-- The element is opaque and opaque elements are skipped. -/
def skipsOpaque (ctx : Context) (e : Element) : Bool :=
  ctx.settings.skipOpaque &&
    (ctx.registry.element? e.type).any (·.spec.category = .opaqueNode)

/-- What the handler of the type of an element gives, if it gives any instructions. -/
def handled (ctx : Context) (e : Element) : Build (Option ElementOutput) :=
  match ctx.handlers.elements.get? e.type with
  | none => pure none
  | some handler =>
    Step.act fun w =>
      let (output, w) := handler e w
      (output.filter (!·.instructions.isEmpty), w)

def creation (ctx : Context) (e : Element) (spec : ElementSpec) (path : List String) :
    Build Expr := do
  let name ← Build.typeName ctx e.type
  let payload := Expr.text (e.payload.getD "")
  match spec.category with
  | .regular => return .construct name [] []
  | .leafText => return .construct name [] [.text (e.text.getD "")]
  | .opaqueNode => return .call (some (.type name)) spec.factory [] [payload]
  | .rawPayload =>
    let kind := e.rawKind.getD ""
    if kind = "" then
      Step.fail (.unsupported (.rawKind e.type) (Location.of? path none))
    else
      Build.register ctx ctx.registry.rawKind
      let owner ← Build.typeName ctx ctx.registry.rawKind
      return .construct name [] [.constant owner kind, payload]

/-- Creates the object that is the value of a complex property. -/
def complexValue (ctx : Context) (e : Element) (property : String × TypeId) :
    Build (List (Instr × Option Wire)) :=
  match e.value? property.1 with
  | none => pure []
  | some raw => do
    let type := property.2
    Build.register ctx type
    let typeName ← Build.typeName ctx type
    let (declaration, name) ←
      Build.declare ctx type (.construct typeName (type.args.map (·.name)) [])
    return [(declaration, some ⟨type, property.1, name⟩),
      (.set name "InnerText" (.text raw.display), none), (.blank, none)]

/-- Creates the bag that holds the markup-compatibility rules of an element. -/
def markupBag (ctx : Context) (e : Element) : Build (List (Instr × Option Wire)) :=
  match e.markup with
  | none => pure []
  | some rules => do
    let bag := ctx.registry.bag
    Build.register ctx bag.type
    let typeName ← Build.typeName ctx bag.type
    let (declaration, name) ← Build.declare ctx bag.type (.construct typeName [] [])
    let fields := rules.present.map fun (field, rule) => (Instr.set name field (.text rule), none)
    return (declaration, some ⟨bag.type, bag.property, name⟩) :: fields ++ [(.blank, none)]

def momentExpr (ctx : Context) (m : Moment) : Build Expr := do
  Build.addPlain momentType.space
  let typeName ← Build.typeName ctx momentType
  match m.ticks? with
  | none => Step.fail .momentOutOfRange
  | some ticks =>
    let kindName ← Build.typeName ctx momentKindType
    return .construct typeName [] [.primitive (.int ticks), .constant kindName m.zone.name]

/-- Sets a simple property, or says that its value does not fit. -/
def simpleProperty (ctx : Context) (e : Element) (name : String) (property : String × Primitive) :
    Build (List Instr) :=
  match e.value? property.1 with
  | none => pure []
  | some raw =>
    match (Raw.json raw).coerce? property.2 with
    | none => pure [.comment (mismatchMessage property.1 raw.display)]
    | some (.literal l) => pure [.set name property.1 (.primitive l)]
    | some (.moment m) => do
      let value ← momentExpr ctx m
      return [.set name property.1 value]

/-- Sets the property that an object is the value of, and releases its variable. -/
def wire (name : String) (w : Wire) : Build (List Instr) := do
  Build.release w.type w.name
  return [.set name w.property (.var w.name)]

/-- What is said of a code that an enum does not have, for the reader of the script. -/
def enumComment (property name owner raw : String) : String :=
  s!"Could not parse value of '{property}' property for variable \x60{name}\x60 - " ++
    s!"{owner} enum does not contain '{raw}' field"

/-- Sets an enum property, or says that its code is unknown. -/
def enumProperty (ctx : Context) (e : Element) (name : String) (property : String × EnumSpec) :
    Build (List Instr) :=
  match e.value? property.1 with
  | none => pure []
  | some raw => do
    let spec := property.2
    Build.register ctx spec.type
    let owner ← Build.typeName ctx spec.type
    match spec.constant? raw with
    | none => return [.comment (enumComment property.1 name owner raw.display)]
    | some constant => return [.set name property.1 (.constant owner constant)]

/-- Declares the namespaces that an element introduces. -/
def declarations (e : Element) (name : String) : List Instr :=
  e.declarations.entries.map fun (short, uri) =>
    .invokeOn (some (.var name)) "AddNamespaceDeclaration" [.text short, .text uri]

def append (name child : String) : List Instr :=
  if child = "" then []
  else [.invokeOn (some (.var name)) "Append" [.var child], .blank]

/-- Everything about an element up to its children. -/
def elementHead (ctx : Context) (e : Element) (r : ResolvedElement) (path : List String) :
    Build (List Instr × String) := do
  let values ← Step.collect (complexValue ctx e) r.complex
  let bag ← markupBag ctx e
  let objects := values ++ bag
  let value ← creation ctx e r.spec path
  let (declaration, name) ← Build.declare ctx e.type value
  let simple ← Step.collect (simpleProperty ctx e name) r.simple
  let wires ← Step.collect (wire name) (objects.filterMap (·.2))
  let enums ← Step.collect (enumProperty ctx e name) r.enums
  return (objects.map (·.1) ++ declaration :: declarations e name ++ simple ++ wires ++ enums
    ++ [.blank], name)

mutual

/-- The instructions that rebuild an element, which stands below the types of `path`. Trees may be of
any depth: the limit that an interpreter sets on recursion is left out. -/
def element (ctx : Context) (path : List String) : Element → Build ElementOutput
  | e@⟨type, children, _, _, _, _, _, _⟩ => do
    Build.checkCancelled
    let path := path ++ [type.name]
    let resolved := ctx.registry.element? type
    if skips ctx.settings resolved e then
      return ⟨[], ""⟩
    else
      match ← handled ctx e with
      | some output => return output
      | none =>
        match resolved with
        | none => Step.fail (.unsupported (.elementType type) (Location.of? path none))
        | some r =>
          Build.register ctx type
          if r.spec.category = .opaqueNode then
            let value ← creation ctx e r.spec path
            let (declaration, name) ← Build.declare ctx type value
            Build.release type name
            return ⟨[declaration], name⟩
          else
            let (head, name) ← elementHead ctx e r path
            Build.checkCancelled
            let body ← elements ctx path name children
            Build.release type name
            return ⟨head ++ body, name⟩

/-- The instructions that rebuild the children of the element in a variable and append them. -/
def elements (ctx : Context) (path : List String) (name : String) :
    List Element → Build (List Instr)
  | [] => pure []
  | child :: rest =>
    if skipsOpaque ctx child then elements ctx path name rest
    else do
      let output ← element ctx path child
      let more ← elements ctx path name rest
      return output.instructions ++ append name output.name ++ more

end

/-- The instructions that rebuild an element tree. -/
def root (ctx : Context) (e : Option Element) : Build ElementOutput :=
  match e with
  | none => Step.fail (.unmet .element)
  | some e => element ctx [] e

end Compile

end DocScript
