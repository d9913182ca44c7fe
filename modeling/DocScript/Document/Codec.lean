import DocScript.Base64
import DocScript.Document.Model
import DocScript.Schema.Codec

/-!
# Documents as JSON

`ofJson` checks and reads each part of a document, `toJson` writes it with every member present.
Numbers that are not finite become null where they are written, and bytes are written in the
alphabet that is safe in addresses.
-/

namespace DocScript

open Numeral

mutual

def Json.stored : Json → Json
  | .float (.finite x) => .float (.finite x)
  | .float _ => .null
  | .arr items => .arr (Json.storedItems items)
  | .obj members => .obj (Json.storedMembers members)
  | .null => .null
  | .bool b => .bool b
  | .int n => .int n
  | .str s => .str s

def Json.storedItems : List Json → List Json
  | [] => []
  | x :: rest => x.stored :: Json.storedItems rest

def Json.storedMembers : List (String × Json) → List (String × Json)
  | [] => []
  | (k, x) :: rest => (k, x.stored) :: Json.storedMembers rest

end

/-- Reads markup-compatibility rules; each has two names. -/
def MarkupRules.ofJson (j : Json) : Checked MarkupRules :=
  let rule (name other : String) : Checked (Option String) :=
    j.aliased name other none fun v _ => v.asOption Json.asString
  j.model <| MarkupRules.mk
    <$> rule "Ignorable" "ignorable"
    <*> rule "ProcessContent" "process_content"
    <*> rule "PreserveElements" "preserve_elements"
    <*> rule "PreserveAttributes" "preserve_attributes"
    <*> rule "MustUnderstand" "must_understand"

def MarkupRules.toJson (m : MarkupRules) : Json :=
  .obj (m.named.map fun (name, rule) => (name, .ofOption .str rule))

namespace Element

def ofJson (j : Json) : Checked Element :=
  j.model <| Element.mk
    <$> j.required "type" (fun v _ => TypeId.ofJson v)
    <*> j.withDefault "children" [] (fun v _ => Json.sequence .notList v fun w _ => ofJson w)
    <*> j.withDefault "properties" .empty (fun v _ => v.asMap fun x => .valid x.distinct)
    <*> j.withDefault "namespace_declarations" .empty (fun v _ => v.asMap Json.asString)
    <*> j.withDefault "text" none (fun v _ => v.asOption Json.asString)
    <*> j.withDefault "payload" none (fun v _ => v.asOption Json.asString)
    <*> j.withDefault "raw_kind" none (fun v _ => v.asOption Json.asString)
    <*> j.withDefault "mc_attributes" none fun v _ => v.asOption MarkupRules.ofJson
termination_by sizeOf j

mutual

def toJson : Element → Json
  | ⟨type, children, properties, declarations, text, payload, rawKind, markup⟩ =>
    .obj [("type", type.toJson), ("children", .arr (toJsonAll children)),
      ("properties", .ofMap Json.stored properties),
      ("namespace_declarations", .ofMap .str declarations), ("text", .ofOption .str text),
      ("payload", .ofOption .str payload), ("raw_kind", .ofOption .str rawKind),
      ("mc_attributes", .ofOption MarkupRules.toJson markup)]

def toJsonAll : List Element → List Json
  | [] => []
  | e :: rest => toJson e :: toJsonAll rest

end

end Element

def Edge.ofJson (j : Json) : Checked Edge :=
  j.model <| Edge.mk
    <$> j.required "relationship_id" (fun v _ => v.asString)
    <*> j.required "target" fun v _ => v.asString

def Edge.toJson (e : Edge) : Json :=
  .obj [("relationship_id", .str e.id), ("target", .str e.target)]

def Hyperlink.ofJson (j : Json) : Checked Hyperlink :=
  j.model <| Hyperlink.mk
    <$> j.required "id" (fun v _ => v.asString)
    <*> j.required "uri" (fun v _ => v.asString)
    <*> j.withDefault "is_external" true fun v _ => v.asBool

def Hyperlink.toJson (h : Hyperlink) : Json :=
  .obj [("id", .str h.id), ("uri", .str h.uri), ("is_external", .bool h.isExternal)]

def ExternalLink.ofJson (j : Json) : Checked ExternalLink :=
  j.model <| ExternalLink.mk
    <$> j.required "id" (fun v _ => v.asString)
    <*> j.required "uri" (fun v _ => v.asString)
    <*> j.required "relationship_type" fun v _ => v.asString

def ExternalLink.toJson (e : ExternalLink) : Json :=
  .obj [("id", .str e.id), ("uri", .str e.uri), ("relationship_type", .str e.type)]

def Json.asBytes : Json → Checked (List UInt8)
  | .str s =>
    match Base64.decode? s with
    | some bytes => .valid bytes
    | none => .fail .badBytes
  | _ => .fail .notBytes

/-- The members of a part as they are read, before its content is settled. -/
structure PartMembers where
  uri : String
  type : TypeId
  contentType : Option String
  root : Option Element
  payload : Option (List UInt8)
  children : List Edge
  hyperlinks : List Hyperlink
  externals : List ExternalLink

/-- The part that some members describe. A part has a root element or a payload, never both. -/
def PartMembers.toPart (p : PartMembers) : Except String Part :=
  let part (content : Content) : Part :=
    ⟨p.uri, p.type, p.contentType, content, p.children, p.hyperlinks, p.externals⟩
  match p.root, p.payload with
  | none, none => .ok (part .none)
  | some e, none => .ok (part (.root e))
  | none, some bytes => .ok (part (.binary bytes))
  | some _, some _ =>
    .error s!"Part '{p.uri}' cannot have both a root element and a binary payload"

def Part.ofJson (j : Json) : Checked Part :=
  let members := j.model <| PartMembers.mk
    <$> j.required "uri" (fun v _ => v.asString)
    <*> j.required "type" (fun v _ => TypeId.ofJson v)
    <*> j.withDefault "content_type" none (fun v _ => v.asOption Json.asString)
    <*> j.withDefault "root" none (fun v _ => v.asOption Element.ofJson)
    <*> j.withDefault "payload" none (fun v _ => v.asOption Json.asBytes)
    <*> j.withDefault "children" [] (fun v _ => v.asList Edge.ofJson)
    <*> j.withDefault "hyperlinks" [] (fun v _ => v.asList Hyperlink.ofJson)
    <*> j.withDefault "external_relationships" [] fun v _ => v.asList ExternalLink.ofJson
  members.settle PartMembers.toPart

def Part.root? (p : Part) : Option Element :=
  match p.content with
  | .root e => some e
  | _ => none

def Part.payload? (p : Part) : Option (List UInt8) :=
  match p.content with
  | .binary bytes => some bytes
  | _ => none

def Part.toJson (p : Part) : Json :=
  .obj [("uri", .str p.uri), ("type", p.type.toJson),
    ("content_type", .ofOption .str p.contentType), ("root", .ofOption Element.toJson p.root?),
    ("payload", .ofOption (fun b => .str (Base64.urlSafe.encode b)) p.payload?),
    ("children", .arr (p.children.map (·.toJson))),
    ("hyperlinks", .arr (p.hyperlinks.map (·.toJson))),
    ("external_relationships", .arr (p.externals.map (·.toJson)))]

/-- The first part that stands under a name that is not its address. -/
def misplaced? (parts : OrderedMap String Part) : Option (String × Part) :=
  parts.entries.find? fun e => e.1 ≠ e.2.uri

/-- The graph of some parts, each of which must stand under its address. -/
def Graph.ofParts (parts : OrderedMap String Part) : Except String Graph :=
  match h : misplaced? parts with
  | some (key, part) => .error s!"Part keyed as '{key}' declares URI '{part.uri}'"
  | none =>
    .ok ⟨parts, fun e he => by
      have := List.find?_eq_none.mp h e he
      simpa using this⟩

def Graph.ofJson (j : Json) : Checked Graph :=
  (j.model (j.withDefault "parts" .empty fun v _ => v.asMap Part.ofJson)).settle Graph.ofParts

def Graph.toJson (g : Graph) : Json := .obj [("parts", .ofMap Part.toJson g.parts)]

def Package.ofJson (j : Json) : Checked Package :=
  j.model <| Package.mk
    <$> j.required "type" (fun v _ => TypeId.ofJson v)
    <*> j.withDefault "graph" .empty (fun v _ => Graph.ofJson v)
    <*> j.withDefault "children" [] (fun v _ => v.asList Edge.ofJson)
    <*> j.withDefault "hyperlinks" [] (fun v _ => v.asList Hyperlink.ofJson)
    <*> j.withDefault "external_relationships" [] fun v _ => v.asList ExternalLink.ofJson

def Package.toJson (p : Package) : Json :=
  .obj [("type", p.type.toJson), ("graph", p.graph.toJson),
    ("children", .arr (p.children.map (·.toJson))),
    ("hyperlinks", .arr (p.hyperlinks.map (·.toJson))),
    ("external_relationships", .arr (p.externals.map (·.toJson)))]

/-- The members of a model as they are read, before its target is settled. -/
structure ModelMembers where
  schema : Schema
  element : Option Element
  graph : Option Graph
  part : Option String
  package : Option Package

def ModelMembers.toModel (m : ModelMembers) : Except String Model :=
  match m.element, m.part, m.package with
  | some e, none, none => .ok ⟨m.schema, .element e m.graph⟩
  | none, some uri, none =>
    match m.graph with
    | some g => .ok ⟨m.schema, .part uri g⟩
    | none => .error "A 'part' target requires a 'graph'"
  | none, none, some p => .ok ⟨m.schema, .package p m.graph⟩
  | _, _, _ => .error "Exactly one of 'element', 'part' or 'package' must be given"

namespace Model

def ofJson (j : Json) : Checked Model :=
  let members := j.model <| ModelMembers.mk
    <$> j.aliased "schema" "schema_document" .empty (fun v _ => Schema.ofJson v)
    <*> j.withDefault "element" none (fun v _ => v.asOption Element.ofJson)
    <*> j.withDefault "graph" none (fun v _ => v.asOption Graph.ofJson)
    <*> j.withDefault "part" none (fun v _ => v.asOption Json.asString)
    <*> j.withDefault "package" none fun v _ => v.asOption Package.ofJson
  members.settle ModelMembers.toModel

def members (m : Model) : ModelMembers :=
  match m.target with
  | .element e g => ⟨m.schema, some e, g, none, none⟩
  | .part uri g => ⟨m.schema, none, some g, some uri, none⟩
  | .package p g => ⟨m.schema, none, g, none, some p⟩

def toJson (m : Model) : Json :=
  let parts := m.members
  .obj [("schema", parts.schema.toJson), ("element", .ofOption Element.toJson parts.element),
    ("graph", .ofOption Graph.toJson parts.graph), ("part", .ofOption .str parts.part),
    ("package", .ofOption Package.toJson parts.package)]

end Model

end DocScript
