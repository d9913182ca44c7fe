import DocScript.Schema.Spec

/-!
# Schemas as JSON

`ofJson` checks and reads each part of a schema, `toJson` writes it with every member present.
-/

namespace DocScript

/-- The name of a value in a list of named values. -/
def nameIn {α : Type} [DecidableEq α] (named : List (String × α)) (a : α) : String :=
  ((named.find? fun e => e.2 = a).map (·.1)).getD ""

def Json.ofOption {α : Type} (f : α → Json) : Option α → Json
  | none => .null
  | some a => f a

def Json.ofMap {α : Type} (f : α → Json) (m : OrderedMap String α) : Json :=
  .obj (m.entries.map fun e => (e.1, f e.2))

namespace Property

inductive Kind where
  | simple
  | complex
  | enum
  deriving DecidableEq, Repr

def Kind.named : List (String × Kind) :=
  [("simple", simple), ("complex", complex), ("enum", enum)]

/-- A property from its parts, where the parts fit its kind. -/
def ofParts (name : String) (kind : Kind) (primitive : Option Primitive) (type : Option TypeId) :
    Except String Property :=
  match kind, primitive, type with
  | .simple, some p, t => .ok ⟨name, .simple p t⟩
  | .simple, none, _ => .error s!"Simple property '{name}' must declare a primitive kind"
  | .complex, p, some t => .ok ⟨name, .complex t p⟩
  | .complex, _, none => .error s!"Complex property '{name}' must declare a type"
  | .enum, p, some t => .ok ⟨name, .enum t p⟩
  | .enum, _, none => .error s!"Enum property '{name}' must declare a type"

def ofJson (j : Json) : Checked Property :=
  let parts := j.model <| Prod.mk
    <$> j.required "name" (fun v _ => v.asString)
    <*> (Prod.mk
      <$> j.required "kind" (fun v _ => v.asEnum Kind.named)
      <*> (Prod.mk
        <$> j.withDefault "primitive" none (fun v _ => v.asOption (·.asEnum Primitive.named))
        <*> j.withDefault "type" none fun v _ => v.asOption TypeId.ofJson))
  parts.settle fun (name, kind, primitive, type) => ofParts name kind primitive type

/-- The kind, primitive kind and type of a property. -/
def parts (p : Property) : Kind × Option Primitive × Option TypeId :=
  match p.form with
  | .simple primitive type => (.simple, some primitive, type)
  | .complex type primitive => (.complex, primitive, some type)
  | .enum type primitive => (.enum, primitive, some type)

def toJson (p : Property) : Json :=
  let (kind, primitive, type) := p.parts
  .obj [("name", .str p.name), ("kind", .str (nameIn Kind.named kind)),
    ("primitive", .ofOption (fun k => .str (nameIn Primitive.named k)) primitive),
    ("type", .ofOption TypeId.toJson type)]

end Property

def EnumSpec.ofJson (j : Json) : Checked EnumSpec :=
  j.model <| EnumSpec.mk
    <$> j.required "type" (fun v _ => TypeId.ofJson v)
    <*> j.withDefault "members" .empty fun v _ => v.asMap Json.asString

def EnumSpec.toJson (e : EnumSpec) : Json :=
  .obj [("type", e.type.toJson), ("members", .ofMap .str e.members)]

def ElementSpec.ofJson (j : Json) : Checked ElementSpec :=
  j.model <| ElementSpec.mk
    <$> j.required "type" (fun v _ => TypeId.ofJson v)
    <*> j.withDefault "category" .regular (fun v _ => v.asEnum Category.named)
    <*> j.withDefault "prefix" none (fun v _ => v.asOption Json.asString)
    <*> j.withDefault "properties" [] (fun v _ => v.asList Property.ofJson)
    <*> j.withDefault "factory" defaultFactory fun v _ => v.asString

def ElementSpec.toJson (e : ElementSpec) : Json :=
  .obj [("type", e.type.toJson), ("category", .str (nameIn Category.named e.category)),
    ("prefix", .ofOption .str e.markupPrefix), ("properties", .arr (e.properties.map (·.toJson))),
    ("factory", .str e.factory)]

def AddOperation.ofJson (j : Json) : Checked AddOperation :=
  j.model <| AddOperation.mk
    <$> j.required "child_type" (fun v _ => TypeId.ofJson v)
    <*> j.required "operation" (fun v _ => v.asString)
    <*> j.withDefault "accepts_content_type" false (fun v _ => v.asBool)
    <*> j.withDefault "accepts_relationship_id" true fun v _ => v.asBool

def AddOperation.toJson (a : AddOperation) : Json :=
  .obj [("child_type", a.child.toJson), ("operation", .str a.operation),
    ("accepts_content_type", .bool a.takesContentType),
    ("accepts_relationship_id", .bool a.takesRelationshipId)]

def PartSpec.ofJson (j : Json) : Checked PartSpec :=
  j.model <| PartSpec.mk
    <$> j.required "type" (fun v _ => TypeId.ofJson v)
    <*> j.withDefault "properties" .empty (fun v _ => v.asMap TypeId.ofJson)
    <*> j.withDefault "add_operations" [] fun v _ => v.asList AddOperation.ofJson

def PartSpec.toJson (p : PartSpec) : Json :=
  .obj [("type", p.type.toJson), ("properties", .ofMap TypeId.toJson p.properties),
    ("add_operations", .arr (p.additions.map (·.toJson)))]

def PackageSpec.ofJson (j : Json) : Checked PackageSpec :=
  j.model <| PackageSpec.mk
    <$> j.required "type" (fun v _ => TypeId.ofJson v)
    <*> j.withDefault "create_operation" defaultCreate (fun v _ => v.asString)
    <*> j.withDefault "add_operations" [] fun v _ => v.asList AddOperation.ofJson

def PackageSpec.toJson (p : PackageSpec) : Json :=
  .obj [("type", p.type.toJson), ("create_operation", .str p.create),
    ("add_operations", .arr (p.additions.map (·.toJson)))]

/-- Reads the holder of markup-compatibility rules from JSON. -/
def BagSpec.ofJson (j : Json) : Checked BagSpec :=
  j.model <| BagSpec.mk
    <$> j.withDefault "type" standard.type (fun v _ => TypeId.ofJson v)
    <*> j.withDefault "property_name" standard.property fun v _ => v.asString

/-- Writes the holder of markup-compatibility rules as JSON. -/
def BagSpec.toJson (b : BagSpec) : Json :=
  .obj [("type", b.type.toJson), ("property_name", .str b.property)]

def Schema.ofJson (j : Json) : Checked Schema :=
  j.model <| Schema.mk
    <$> j.withDefault "elements" [] (fun v _ => v.asList ElementSpec.ofJson)
    <*> j.withDefault "enums" [] (fun v _ => v.asList EnumSpec.ofJson)
    <*> j.withDefault "parts" [] (fun v _ => v.asList PartSpec.ofJson)
    <*> j.withDefault "packages" [] (fun v _ => v.asList PackageSpec.ofJson)
    <*> j.withDefault "types" [] (fun v _ => v.asList TypeId.ofJson)
    <*> j.withDefault "raw_kind_type" standardRawKind (fun v _ => TypeId.ofJson v)
    <*> j.withDefault "metadata_bag" .standard fun v _ => BagSpec.ofJson v

def Schema.toJson (s : Schema) : Json :=
  .obj [("elements", .arr (s.elements.map (·.toJson))), ("enums", .arr (s.enums.map (·.toJson))),
    ("parts", .arr (s.parts.map (·.toJson))), ("packages", .arr (s.packages.map (·.toJson))),
    ("types", .arr (s.types.map (·.toJson))), ("raw_kind_type", s.rawKind.toJson),
    ("metadata_bag", s.bag.toJson)]

end DocScript
