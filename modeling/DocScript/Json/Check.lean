import DocScript.Json.Basic

/-!
# Checking values

A check turns a JSON value into a value of some type or lists what is wrong with it. Checks of
several members collect all their issues, in the order of the members, and say where each one is.
-/

namespace DocScript

inductive Place where
  | field (name : String)
  | index (n : Nat)
  deriving DecidableEq, Repr

inductive Fault where
  | invalidText
  | missing
  | notModel
  | notString
  | notList
  | notTuple
  | notSet
  | notMap
  | notInEnum
  | notBool
  | badBool
  | notInt
  | notFloat
  | notDecimal
  | notBytes
  | badBytes
  | noTag
  | badTag
  | wrongLiteral
  | rejected (message : String)
  deriving DecidableEq, Repr

def Fault.code : Fault → String
  | invalidText => "json_invalid"
  | missing => "missing"
  | notModel => "model_type"
  | notString => "string_type"
  | notList => "list_type"
  | notTuple => "tuple_type"
  | notSet => "set_type"
  | notMap => "dict_type"
  | notInEnum => "enum"
  | notBool => "bool_type"
  | badBool => "bool_parsing"
  | notInt => "int_type"
  | notFloat => "float_type"
  | notDecimal => "decimal_type"
  | notBytes => "bytes_type"
  | badBytes => "bytes_invalid_encoding"
  | noTag => "union_tag_not_found"
  | badTag => "union_tag_invalid"
  | wrongLiteral => "literal_error"
  | rejected _ => "value_error"

/-- The text of a fault in a report, where it has one of its own. -/
def Fault.message? : Fault → Option String
  | rejected message => some ("Value error, " ++ message)
  | _ => none

structure Issue where
  path : List Place
  fault : Fault
  deriving DecidableEq, Repr

inductive Checked (α : Type) where
  | valid (value : α)
  | invalid (issues : List Issue)
  deriving Repr

namespace Checked

variable {α β : Type}

protected def map (f : α → β) : Checked α → Checked β
  | valid a => valid (f a)
  | invalid issues => invalid issues

/-- Joins two checks and keeps the issues of both. -/
protected def ap : Checked (α → β) → Checked α → Checked β
  | valid f, valid a => valid (f a)
  | valid _, invalid issues => invalid issues
  | invalid issues, valid _ => invalid issues
  | invalid issues, invalid more => invalid (issues ++ more)

instance : Functor Checked := ⟨Checked.map, fun a => Checked.map fun _ => a⟩

instance : Applicative Checked where
  pure := valid
  seq f a := Checked.ap f (a ())

def fail (fault : Fault) : Checked α := invalid [⟨[], fault⟩]

def under (place : Place) : Checked α → Checked α
  | valid a => valid a
  | invalid issues => invalid (issues.map fun i => { i with path := place :: i.path })

/-- A check whose value may still be rejected as a whole, with a message. -/
def settle (c : Checked α) (f : α → Except String β) : Checked β :=
  match c with
  | invalid issues => invalid issues
  | valid a =>
    match f a with
    | .ok b => valid b
    | .error message => fail (.rejected message)

def toOption : Checked α → Option α
  | valid a => some a
  | invalid _ => none

end Checked

namespace Json

variable {α : Type}

def asString : Json → Checked String
  | str s => .valid s
  | _ => .fail .notString

def asOption (check : Json → Checked α) : Json → Checked (Option α)
  | null => .valid none
  | j => some <$> check j

def asEnum (named : List (String × α)) : Json → Checked α
  | str s =>
    match named.lookup s with
    | some a => .valid a
    | none => .fail .notInEnum
  | _ => .fail .notInEnum

def boolWords : List (String × Bool) :=
  [("0", false), ("off", false), ("f", false), ("false", false), ("n", false), ("no", false),
    ("1", true), ("on", true), ("t", true), ("true", true), ("y", true), ("yes", true)]

def boolOfInt (n : Int) : Checked Bool :=
  if n = 0 then .valid false else if n = 1 then .valid true else .fail .badBool

def isWordSized (n : Int) : Bool :=
  -0x8000000000000000 ≤ n && n < 0x8000000000000000

/-- A truth value, or a number or word that stands for one. A number of more than 64 bits stands
for none. -/
def asBool : Json → Checked Bool
  | bool b => .valid b
  | int n => if isWordSized n then boolOfInt n else .fail .notBool
  | float x =>
    match x.toInt? with
    | some n => if n.natAbs < 0x8000000000000000 then boolOfInt n else .fail .notBool
    | none => .fail .notBool
  | str s =>
    match boolWords.lookup (String.ofList (s.toList.map Char.toLower)) with
    | some b => .valid b
    | none => .fail .badBool
  | _ => .fail .notBool

/-- The value must be an object before its members are looked at. -/
def model (j : Json) (check : Checked α) : Checked α :=
  match j with
  | obj _ => check
  | _ => .fail .notModel

/-- The member of a name. The check learns that the member is smaller than the object. -/
def required (j : Json) (name : String) (check : (v : Json) → sizeOf v < sizeOf j → Checked α) :
    Checked α :=
  match h : j.member? name with
  | some v => (check v (sizeOf_member_lt h)).under (.field name)
  | none => (Checked.fail .missing).under (.field name)

/-- The member of a name, or a value for objects without it. -/
def withDefault (j : Json) (name : String) (default : α)
    (check : (v : Json) → sizeOf v < sizeOf j → Checked α) : Checked α :=
  match h : j.member? name with
  | some v => (check v (sizeOf_member_lt h)).under (.field name)
  | none => .valid default

/-- The member of one of two names, of which the first wins. -/
def aliased (j : Json) (name other : String) (default : α)
    (check : (v : Json) → sizeOf v < sizeOf j → Checked α) : Checked α :=
  if (j.member? name).isSome then j.withDefault name default check
  else j.withDefault other default check

/-- Checks each item of a list, from an index on. -/
def checkItems {items : List Json} (check : (v : Json) → v ∈ items → Checked α) (index : Nat) :
    (rest : List Json) → (∀ v ∈ rest, v ∈ items) → Checked (List α)
  | [], _ => .valid []
  | v :: rest, h =>
    List.cons <$> (check v (h v (by simp))).under (.index index)
      <*> checkItems check (index + 1) rest fun w hw => h w (List.mem_cons_of_mem _ hw)

theorem sizeOf_item_lt {v : Json} {items : List Json} (h : v ∈ items) :
    sizeOf v < sizeOf (arr items) := by
  have := List.sizeOf_lt_of_mem h
  simp only [arr.sizeOf_spec]
  omega

/-- A list of which each item is checked; anything else has the given fault. -/
def sequence (fault : Fault) (j : Json) (check : (v : Json) → sizeOf v < sizeOf j → Checked α) :
    Checked (List α) :=
  match j with
  | arr items => checkItems (fun v h => check v (sizeOf_item_lt h)) 0 items fun _ h => h
  | _ => .fail fault

def asList (check : Json → Checked α) (j : Json) : Checked (List α) :=
  sequence .notList j fun v _ => check v

/-- Checks each member of an object under its name. -/
def checkMembers (check : Json → Checked α) : List (String × Json) → Checked (List (String × α))
  | [] => .valid []
  | (k, v) :: rest =>
    List.cons <$> ((k, ·) <$> (check v).under (.field k)) <*> checkMembers check rest

/-- An object as a map. All members are checked, also those of one name. -/
def asMap (check : Json → Checked α) : Json → Checked (OrderedMap String α)
  | obj members => OrderedMap.ofList <$> checkMembers check members
  | _ => .fail .notMap

/-- An object whose member `kind` says how to check it. -/
def tagged (j : Json) (cases : String → Option (Checked α)) : Checked α :=
  match j with
  | obj _ =>
    match j.member? "kind" with
    | none => .fail .noTag
    | some (str tag) =>
      match cases tag with
      | some c => c.under (.field tag)
      | none => .fail .badTag
    | some _ => .fail .badTag
  | _ => .fail .notMap

/-- The member `kind` has the given value or is left out. -/
def literalKind (j : Json) (tag : String) : Checked Unit :=
  j.withDefault "kind" () fun v _ => if v = str tag then .valid () else .fail .wrongLiteral

end Json

end DocScript
