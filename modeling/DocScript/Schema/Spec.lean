import DocScript.Schema.TypeId

/-!
# Schemas

A schema describes a family of documents: the types of elements and how each is constructed, the
enums, the parts and packages with the operations that add parts to them.
-/

namespace DocScript

/-- The kinds of values that a simple property takes. -/
inductive Primitive where
  | string
  | boolean
  | byte
  | sbyte
  | int16
  | uint16
  | int32
  | uint32
  | int64
  | uint64
  | single
  | double
  | decimal
  | datetime
  deriving DecidableEq, Repr

def Primitive.named : List (String × Primitive) :=
  [("string", string), ("boolean", boolean), ("byte", byte), ("sbyte", sbyte), ("int16", int16),
    ("uint16", uint16), ("int32", int32), ("uint32", uint32), ("int64", int64),
    ("uint64", uint64), ("single", single), ("double", double), ("decimal", decimal),
    ("datetime", datetime)]

/-- How a property is set. A simple property has a primitive kind and the others have a type;
what else was declared is kept and has no effect. -/
inductive PropertyForm where
  | simple (primitive : Primitive) (type : Option TypeId)
  | complex (type : TypeId) (primitive : Option Primitive)
  | enum (type : TypeId) (primitive : Option Primitive)
  deriving DecidableEq, Repr

structure Property where
  name : String
  form : PropertyForm
  deriving DecidableEq, Repr

/-- An enum: the names of its constants by their codes. -/
structure EnumSpec where
  type : TypeId
  members : OrderedMap String String
  deriving DecidableEq

inductive Category where
  | regular
  | leafText
  | rawPayload
  | opaqueNode
  deriving DecidableEq, Repr

def Category.named : List (String × Category) :=
  [("regular", regular), ("leaf_text", leafText), ("raw_payload", rawPayload),
    ("opaque", opaqueNode)]

/-- An element type with its properties in the order in which they are set. -/
structure ElementSpec where
  type : TypeId
  category : Category
  markupPrefix : Option String
  properties : List Property
  factory : String
  deriving DecidableEq, Repr

/-- The factory operation of opaque elements that name no other. -/
def ElementSpec.defaultFactory : String := "CreateOpenXmlUnknownElement"

/-- An operation of a container that adds a part of one type. -/
structure AddOperation where
  child : TypeId
  operation : String
  takesContentType : Bool
  takesRelationshipId : Bool
  deriving DecidableEq, Repr

structure PartSpec where
  type : TypeId
  properties : OrderedMap String TypeId
  additions : List AddOperation
  deriving DecidableEq

structure PackageSpec where
  type : TypeId
  create : String
  additions : List AddOperation
  deriving DecidableEq, Repr

/-- The operation that creates a package whose type is not described. -/
def PackageSpec.defaultCreate : String := "Create"

/-- The type of the objects that hold markup-compatibility rules, and the property that takes
such an object. -/
structure BagSpec where
  type : TypeId
  property : String
  deriving DecidableEq, Repr

/-- The usual holder of markup-compatibility rules. -/
def BagSpec.standard : BagSpec :=
  ⟨.plain "DocumentFormat.OpenXml" "MarkupCompatibilityAttributes", "MCAttributes"⟩

structure Schema where
  elements : List ElementSpec
  enums : List EnumSpec
  parts : List PartSpec
  packages : List PackageSpec
  types : List TypeId
  rawKind : TypeId
  bag : BagSpec
  deriving DecidableEq

def Schema.standardRawKind : TypeId := .plain "System.Xml" "XmlNodeType"

def Schema.empty : Schema := ⟨[], [], [], [], [], standardRawKind, .standard⟩

end DocScript
