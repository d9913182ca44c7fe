import DocScript.Schema.TypeId

/-!
# Element trees

An element carries raw values; the schema says what they mean.
-/

namespace DocScript

/-- Markup-compatibility rules, copied into the script as they are. -/
structure MarkupRules where
  ignorable : Option String
  processContent : Option String
  preserveElements : Option String
  preserveAttributes : Option String
  mustUnderstand : Option String
  deriving DecidableEq, Repr

/-- The rules under the names of the properties that hold them. -/
def MarkupRules.named (m : MarkupRules) : List (String × Option String) :=
  [("Ignorable", m.ignorable), ("ProcessContent", m.processContent),
    ("PreserveElements", m.preserveElements), ("PreserveAttributes", m.preserveAttributes),
    ("MustUnderstand", m.mustUnderstand)]

def MarkupRules.present (m : MarkupRules) : List (String × String) :=
  m.named.filterMap fun (name, rule) => rule.map (name, ·)

structure Element where
  type : TypeId
  children : List Element
  properties : OrderedMap String Json
  declarations : OrderedMap String String
  text : Option String
  payload : Option String
  rawKind : Option String
  markup : Option MarkupRules

namespace Element

def ofType (t : TypeId) : Element := ⟨t, [], .empty, .empty, none, none, none, none⟩

instance : Inhabited Element := ⟨ofType default⟩

def value? (e : Element) (name : String) : Option Json :=
  match e.properties.get? name with
  | some .null => none
  | v => v

def addChild (e child : Element) : Element := { e with children := e.children ++ [child] }

mutual

/-- The types of the elements of a tree, each before those of its children. -/
def types : Element → List TypeId
  | ⟨type, children, _, _, _, _, _, _⟩ => type :: typesAll children

def typesAll : List Element → List TypeId
  | [] => []
  | e :: rest => types e ++ typesAll rest

end

end Element

end DocScript
