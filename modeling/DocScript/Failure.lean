import DocScript.Schema.Registry
import DocScript.Uri

/-!
# Failures

Why nothing could be built, and where. A location is a path of type names from the root down, a
part, or both; it stands in front of the message on a line of its own.
-/

namespace DocScript

structure Location where
  path : List String
  partUri : Option String
  deriving DecidableEq, Repr

def Location.text (l : Location) : String :=
  let inPart :=
    match l.partUri with
    | none | some "" => ""
    | some uri => " in part " ++ uri
  (if l.path.isEmpty then "<root>" else "/".intercalate l.path) ++ inPart

/-- The location of a path and a part, if at least one of them says something. -/
def Location.of? (path : List String) (partUri : Option String) : Option Location :=
  if path.isEmpty && (partUri.getD "").isEmpty then none else some ⟨path, partUri⟩

def located (place : Option Location) (message : String) : String :=
  match place with
  | none => message
  | some l => l.text ++ "\n" ++ message

/-- What has to be there before a document can be built. -/
inductive Need where
  | element
  | part
  | package
  | graph
  | settings
  | schema
  | partInGraph (uri : String)
  | edgeTarget (id target : String)
  | model (path : String)
  | validModel (path : String) (issues : List Issue)
  deriving DecidableEq, Repr

def Need.message : Need → String
  | element => "An element node is required"
  | part => "A part is required"
  | package => "A package is required"
  | graph => "A part graph is required"
  | settings => "Compiler settings are required"
  | schema => "A schema registry is required"
  | partInGraph uri => s!"Part '{uri}' is not in the graph"
  | edgeTarget id target => s!"Relationship '{id}' targets unknown part '{target}'"
  | model path => s!"Document model not found: {path}"
  | validModel path _ => s!"Invalid document model {path}:"

inductive Unsupported where
  | elementType (type : TypeId)
  | rawKind (type : TypeId)
  | rootProperty (part root : TypeId)
  deriving DecidableEq, Repr

def Unsupported.message : Unsupported → String
  | elementType t => s!"No schema entry or handler for element type '{t.display}'"
  | rawKind t => s!"Raw payload node '{t.display}' has no sub-kind"
  | rootProperty part root =>
    s!"Part type '{part.display}' declares no property of type '{root.display}'"

inductive Failure where
  | unmet (need : Need)
  | cancelled
  | unsupported (what : Unsupported) (place : Option Location)
  | schema (fault : SchemaFault)
  | blueprintTwice (uri : String)
  | address (fault : Uri.Fault)
  | momentOutOfRange
  deriving DecidableEq, Repr

def cancelledMessage : String := "Compilation was cancelled"

def Failure.message : Failure → String
  | unmet need => need.message
  | cancelled => cancelledMessage
  | unsupported what place => located place what.message
  | schema fault => fault.message
  | blueprintTwice uri => s!"Part '{uri}' already has a blueprint"
  | address fault => fault.message
  | momentOutOfRange => "date value out of range"

end DocScript
