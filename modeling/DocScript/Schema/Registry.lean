import DocScript.Schema.Spec
import DocScript.Json.Display

/-!
# Registries

A registry is a schema made ready for look-up. It exists only for a consistent schema: no type is
declared twice in one role, and a property of an enum names a declared enum. The properties of an
element are divided once into simple, complex and enum ones; a complex property whose type is a
declared enum is an enum property.
-/

namespace DocScript

inductive SchemaFault where
  | enumTwice (type : TypeId)
  | elementTwice (type : TypeId)
  | partTwice (type : TypeId)
  | packageTwice (type : TypeId)
  | undeclaredEnum (property : String) (owner type : TypeId)
  deriving DecidableEq, Repr

def SchemaFault.message : SchemaFault → String
  | enumTwice t => s!"Enum type '{t.display}' is declared twice"
  | elementTwice t => s!"Element type '{t.display}' is declared twice"
  | partTwice t => s!"Part type '{t.display}' is declared twice"
  | packageTwice t => s!"Package type '{t.display}' is declared twice"
  | undeclaredEnum property owner t =>
    s!"Property '{property}' of '{owner.display}' references undeclared enum '{t.display}'"

def EnumSpec.constant? (e : EnumSpec) (raw : Json) : Option String := e.members.get? raw.display

/-- An element type with its properties divided by the way in which they are set. -/
structure ResolvedElement where
  spec : ElementSpec
  simple : List (String × Primitive)
  complex : List (String × TypeId)
  enums : List (String × EnumSpec)
  deriving DecidableEq

/-- A property after its type has been looked up. -/
inductive ResolvedProperty where
  | simple (primitive : Primitive)
  | complex (type : TypeId)
  | enum (spec : EnumSpec)
  deriving DecidableEq

/-- Looks up the type of a property among the declared enums. -/
def Property.resolve (enums : OrderedMap TypeId EnumSpec) (owner : TypeId) (p : Property) :
    Except SchemaFault ResolvedProperty :=
  match p.form with
  | .simple primitive _ => .ok (.simple primitive)
  | .complex type _ =>
    match enums.get? type with
    | some e => .ok (.enum e)
    | none => .ok (.complex type)
  | .enum type _ =>
    match enums.get? type with
    | some e => .ok (.enum e)
    | none => .error (.undeclaredEnum p.name owner type)

/-- Adds a property in front of those of a resolved element. -/
def ResolvedElement.add (name : String) (p : ResolvedProperty) (e : ResolvedElement) :
    ResolvedElement :=
  match p with
  | .simple primitive => { e with simple := (name, primitive) :: e.simple }
  | .complex type => { e with complex := (name, type) :: e.complex }
  | .enum spec => { e with enums := (name, spec) :: e.enums }

def ElementSpec.divide (enums : OrderedMap TypeId EnumSpec) (spec : ElementSpec) :
    List Property → Except SchemaFault ResolvedElement
  | [] => .ok ⟨spec, [], [], []⟩
  | p :: rest => do
    let resolved ← p.resolve enums spec.type
    let e ← divide enums spec rest
    return e.add p.name resolved

/-- Looks up the types of all properties of an element. -/
def ElementSpec.resolve (enums : OrderedMap TypeId EnumSpec) (spec : ElementSpec) :
    Except SchemaFault ResolvedElement :=
  spec.divide enums spec.properties

/-- Enters declarations under their types, in order, and fails at the first type that comes
again. -/
def declareAll {σ ρ : Type} (type : σ → TypeId) (twice : TypeId → SchemaFault)
    (resolve : σ → Except SchemaFault ρ) :
    OrderedMap TypeId ρ → List σ → Except SchemaFault (OrderedMap TypeId ρ)
  | m, [] => .ok m
  | m, s :: rest =>
    if m.contains (type s) then .error (twice (type s))
    else do
      let r ← resolve s
      declareAll type twice resolve (m.insert (type s) r) rest

structure Registry where
  elements : OrderedMap TypeId ResolvedElement
  enums : OrderedMap TypeId EnumSpec
  parts : OrderedMap TypeId PartSpec
  packages : OrderedMap TypeId PackageSpec
  /-- All types that the schema mentions, with their arguments. -/
  mentioned : List TypeId
  rawKind : TypeId
  bag : BagSpec

namespace Registry

/-- The types that an element type mentions; enums are mentioned by their declarations. -/
def elementMentions (e : ResolvedElement) : List TypeId := e.spec.type :: e.complex.map (·.2)

/-- The types that a part or package type mentions. -/
def containerMentions (type : TypeId) (additions : List AddOperation) : List TypeId :=
  type :: additions.map (·.child)

def build (s : Schema) : Except SchemaFault Registry := do
  let enums ← declareAll EnumSpec.type .enumTwice .ok .empty s.enums
  let elements ← declareAll ElementSpec.type .elementTwice (·.resolve enums) .empty s.elements
  let parts ← declareAll PartSpec.type .partTwice .ok .empty s.parts
  let packages ← declareAll PackageSpec.type .packageTwice .ok .empty s.packages
  let mentioned :=
    s.enums.map (·.type) ++ elements.values.flatMap elementMentions
      ++ s.parts.flatMap (fun p => containerMentions p.type p.additions)
      ++ s.packages.flatMap (fun p => containerMentions p.type p.additions)
      ++ s.types ++ [s.rawKind, s.bag.type]
  return ⟨elements, enums, parts, packages, TypeId.partsAll mentioned, s.rawKind, s.bag⟩

def element? (r : Registry) (t : TypeId) : Option ResolvedElement := r.elements.get? t

def enum? (r : Registry) (t : TypeId) : Option EnumSpec := r.enums.get? t

def part? (r : Registry) (t : TypeId) : Option PartSpec := r.parts.get? t

def package? (r : Registry) (t : TypeId) : Option PackageSpec := r.packages.get? t

/-- The markup prefix of an element type, if it has one that is not empty. -/
def prefixOf? (r : Registry) (t : TypeId) : Option String :=
  ((r.element? t).bind (·.spec.markupPrefix)).filter (· ≠ "")

/-- The simple names that are known in a namespace, each once and sorted. -/
def namesIn (r : Registry) (space : String) : List String :=
  ((r.mentioned.filter (·.space = space)).map (·.name)).eraseDups.mergeSort
    fun a b => decide (a ≤ b)

def hasName (r : Registry) (space name : String) : Bool :=
  r.mentioned.any fun t => t.space = space && t.name = name

end Registry

end DocScript
