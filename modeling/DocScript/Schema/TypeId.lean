import DocScript.Json.Check

/-!
# Type identities

A type is known by the namespace it lives in, its simple name and its type arguments. Two generic
types with different arguments are different types.
-/

namespace DocScript

structure TypeId where
  space : String
  name : String
  args : List TypeId
  deriving Repr

namespace TypeId

mutual

def decEq : (a b : TypeId) → Decidable (a = b)
  | ⟨s, n, as⟩, ⟨s', n', as'⟩ =>
    if hs : s = s' then
      if hn : n = n' then
        match decEqArgs as as' with
        | isTrue h => isTrue (hs ▸ hn ▸ h ▸ rfl)
        | isFalse h => isFalse fun e => h (TypeId.mk.inj e).2.2
      else isFalse fun e => hn (TypeId.mk.inj e).2.1
    else isFalse fun e => hs (TypeId.mk.inj e).1

def decEqArgs : (as bs : List TypeId) → Decidable (as = bs)
  | [], [] => isTrue rfl
  | [], _ :: _ => isFalse (by intro h; cases h)
  | _ :: _, [] => isFalse (by intro h; cases h)
  | a :: as, b :: bs =>
    match decEq a b with
    | isFalse h => isFalse fun e => h (List.cons.inj e).1
    | isTrue h =>
      match decEqArgs as bs with
      | isFalse h' => isFalse fun e => h' (List.cons.inj e).2
      | isTrue h' => isTrue (h ▸ h' ▸ rfl)

end

instance : DecidableEq TypeId := decEq

def plain (space name : String) : TypeId := ⟨space, name, []⟩

instance : Inhabited TypeId := ⟨plain "" ""⟩

/-- The name with its namespace and without type arguments. -/
def fullName (t : TypeId) : String := if t.space = "" then t.name else t.space ++ "." ++ t.name

def isGeneric (t : TypeId) : Bool := !t.args.isEmpty

/-- The type without arguments of a full name; the last point ends the namespace. -/
def ofFullName (s : String) : TypeId :=
  let backwards := s.toList.reverse
  let name := backwards.takeWhile (· != '.')
  let space := (backwards.dropWhile (· != '.')).drop 1
  plain (String.ofList space.reverse) (String.ofList name.reverse)

mutual

/-- The full name with the arguments in angle brackets. -/
def display : TypeId → String
  | ⟨space, name, args⟩ =>
    let full := fullName ⟨space, name, args⟩
    match args with
    | [] => full
    | a :: rest => full ++ "<" ++ display a ++ displayRest rest ++ ">"

def displayRest : List TypeId → String
  | [] => ""
  | a :: rest => ", " ++ display a ++ displayRest rest

end

mutual

/-- Every type that occurs in a type, itself first. -/
def parts : TypeId → List TypeId
  | ⟨space, name, args⟩ => ⟨space, name, args⟩ :: partsAll args

def partsAll : List TypeId → List TypeId
  | [] => []
  | t :: rest => parts t ++ partsAll rest

end

def ofJson (j : Json) : Checked TypeId :=
  j.model <| TypeId.mk
    <$> j.required "namespace" (fun v _ => v.asString)
    <*> j.required "name" (fun v _ => v.asString)
    <*> j.withDefault "type_args" [] fun v _ =>
      Json.sequence .notTuple v fun w _ => ofJson w
termination_by sizeOf j

mutual

def toJson : TypeId → Json
  | ⟨space, name, args⟩ =>
    .obj [("namespace", .str space), ("name", .str name), ("type_args", .arr (toJsonAll args))]

def toJsonAll : List TypeId → List Json
  | [] => []
  | t :: rest => toJson t :: toJsonAll rest

end

end TypeId

end DocScript
