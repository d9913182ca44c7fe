import DocScript.Json.Token

/-!
# Reading JSON text

The tokens drive a machine with a stack of open lists and objects. A text is accepted if the
machine ends with one value and nothing open. All members are kept, also those of one name.
-/

namespace DocScript.Json

/-- A list or object whose end has not been read, and what it lacks. -/
inductive Open where
  /-- A list after its bracket. -/
  | items
  /-- A list that waits for an item after a comma, with the items so far in reverse. -/
  | nextItem (items : List Json)
  /-- A list after an item. -/
  | item (items : List Json)
  /-- An object after its brace. -/
  | members
  /-- An object that waits for a name after a comma, with the members so far in reverse. -/
  | nextName (members : List (String × Json))
  /-- An object after a name. -/
  | name (members : List (String × Json)) (name : String)
  /-- An object after a colon. -/
  | colon (members : List (String × Json)) (name : String)
  /-- An object after a member. -/
  | member (members : List (String × Json))
  deriving Repr

/-- What has been read: open lists and objects, innermost first, or one whole value. -/
inductive State where
  | pending (stack : List Open)
  | done (value : Json)
  deriving Repr

/-- How many lists and objects that are not empty are usually allowed inside each other. -/
def maxDepth : Nat := 200

mutual

/-- How many lists and objects that are not empty stand inside each other. -/
def depth : Json → Nat
  | arr (x :: rest) => depthOfItems (x :: rest) + 1
  | obj (m :: rest) => depthOfMembers (m :: rest) + 1
  | _ => 0

def depthOfItems : List Json → Nat
  | [] => 0
  | x :: rest => max (depth x) (depthOfItems rest)

def depthOfMembers : List (String × Json) → Nat
  | [] => 0
  | (_, x) :: rest => max (depth x) (depthOfMembers rest)

end

namespace State

def start : State := .pending []

/-- Puts a whole value where the innermost open list or object waits for one. -/
def give (value : Json) : List Open → Option State
  | [] => some (.done value)
  | .items :: rest => some (.pending (.item [value] :: rest))
  | .nextItem items :: rest => some (.pending (.item (value :: items) :: rest))
  | .colon members name :: rest =>
    some (.pending (.member ((name, value) :: members) :: rest))
  | _ => none

def waits : List Open → Bool
  | [] => true
  | .items :: _ | .nextItem _ :: _ | .colon _ _ :: _ => true
  | _ => false

/-- The innermost list or object has just been opened. -/
def isFresh : List Open → Bool
  | .items :: _ | .members :: _ => true
  | _ => false

def mark (c : Char) (stack : List Open) : Option State :=
  if c == '[' then if waits stack then some (.pending (.items :: stack)) else none
  else if c == '\x7b' then if waits stack then some (.pending (.members :: stack)) else none
  else
    match stack with
    | .items :: rest => if c == ']' then give (arr []) rest else none
    | .item items :: rest =>
      if c == ']' then give (arr items.reverse) rest
      else if c == ',' then some (.pending (.nextItem items :: rest))
      else none
    | .members :: rest => if c == '\x7d' then give (obj []) rest else none
    | .name members name :: rest =>
      if c == ':' then some (.pending (.colon members name :: rest)) else none
    | .member members :: rest =>
      if c == '\x7d' then give (obj members.reverse) rest
      else if c == ',' then some (.pending (.nextName members :: rest))
      else none
    | _ => none

/-- Reads one token, with at most `limit` lists and objects that are not empty inside each
other. -/
def step (limit : Nat) (t : Token) : State → Option State
  | .done _ => none
  | .pending stack =>
    match t with
    | .mark c =>
      if stack.length > limit && isFresh stack && c != ']' && c != '\x7d' then none
      else mark c stack
    | .value j =>
      if stack.length > limit && isFresh stack then none
      else
        match stack, j with
        | .members :: rest, str s => some (.pending (.name [] s :: rest))
        | .nextName members :: rest, str s => some (.pending (.name members s :: rest))
        | .members :: _, _ | .nextName _ :: _, _ => none
        | _, _ => give j stack

def run (limit : Nat) : State → List Token → Option State
  | s, [] => some s
  | s, t :: ts => (s.step limit t).bind (run limit · ts)

end State

/-- The value that a text spells, if it is not deeper than `limit`. -/
def readWithin? (limit : Nat) (s : String) : Option Json := do
  let ts ← tokens? s.toList
  match ← State.run limit .start ts with
  | .done j => some j
  | .pending _ => none

/-- The value that a text spells, if it is not too deep. -/
def read? (s : String) : Option Json := readWithin? maxDepth s

end DocScript.Json
