import DocScript.Schema.Registry
import DocScript.Script.Basic
import DocScript.Text.Identifier

/-!
# Namespaces and aliases

Every type that a script names has its namespace registered. A namespace gets an alias if one of
its names is already known through another registered namespace. The alias never changes after
that, so it depends only on the order of registration. An empty alias means that there is none.
-/

namespace DocScript

inductive NamePolicy where
  /-- First come, first listed; types have their full names. -/
  | full
  /-- Sorted by alias or name; types have short names. -/
  | short
  deriving DecidableEq, Repr

def NamePolicy.named : List (String × NamePolicy) :=
  [("none", full), ("by-alias-then-name", short)]

/-- The registered namespaces with their aliases. -/
structure Namespaces where
  aliases : OrderedMap String String
  deriving DecidableEq

namespace Namespaces

def empty : Namespaces := ⟨.empty⟩

def contains (ns : Namespaces) (space : String) : Bool := ns.aliases.contains space

/-- The alias of a namespace; empty if it has none or is not registered. -/
def aliasOf (ns : Namespaces) (space : String) : String := (ns.aliases.get? space).getD ""

/-- A name of the namespace of `t`, first of all that of `t`, is known in another registered
namespace. -/
def collides (schema : Registry) (ns : Namespaces) (t : TypeId) : Bool :=
  let others := ns.aliases.keys.filter (· ≠ t.space)
  let siblings := schema.namesIn t.space
  others.any (schema.hasName · t.name) || siblings.any fun name =>
    others.any (schema.hasName · name)

/-- The alias that a type asks for: the markup prefix of its schema entry, else the capitals and
digits of its namespace, or all word characters of it if those do not start with a letter. -/
def wantedAlias (schema : Registry) (t : TypeId) : String :=
  match schema.prefixOf? t with
  | some p => Text.upper p
  | none =>
    let short := Text.upperCaseAndDigitChars t.space
    if short.toList.head?.any Text.isLetter then short else Text.upper (Text.wordChars t.space)

/-- The first of `base ++ n`, `base ++ (n + 1)` and so on that is not taken, among `fuel`. -/
def firstFree (taken : List String) (base : String) : (fuel n : Nat) → String
  | 0, n => base ++ Nat.repr n
  | fuel + 1, n =>
    if taken.contains (base ++ Nat.repr n) then firstFree taken base fuel (n + 1)
    else base ++ Nat.repr n

def taken (ns : Namespaces) : List String := ns.aliases.values.filter (· ≠ "")

/-- An alias for a type that collides: the one it asks for, with a number from 2 if needed. -/
def chooseAlias (schema : Registry) (ns : Namespaces) (t : TypeId) : String :=
  let wanted := wantedAlias schema t
  if ns.taken.contains wanted then firstFree ns.taken wanted ns.taken.length 2 else wanted

/-- Registers the namespace of a type on its own. -/
def registerSpace (schema : Registry) (ns : Namespaces) (t : TypeId) : Namespaces :=
  if ns.contains t.space then ns
  else
    let aliasName := if collides schema ns t then chooseAlias schema ns t else ""
    ⟨ns.aliases.insert t.space aliasName⟩

mutual

/-- Registers the namespaces of the arguments of a type and then its own. -/
def register (schema : Registry) (ns : Namespaces) : TypeId → Namespaces
  | ⟨space, name, args⟩ => registerSpace schema (registerAll schema ns args) ⟨space, name, args⟩

def registerAll (schema : Registry) (ns : Namespaces) : List TypeId → Namespaces
  | [] => ns
  | t :: rest => registerAll schema (register schema ns t) rest

end

def addPlain (ns : Namespaces) (space : String) : Namespaces :=
  if ns.contains space then ns else ⟨ns.aliases.insert space ""⟩

def typeName (policy : NamePolicy) (ns : Namespaces) (t : TypeId) : String :=
  match policy, ns.aliases.get? t.space with
  | .full, _ | _, none => t.fullName
  | .short, some "" => t.name
  | .short, some aliasName => aliasName ++ "." ++ t.name

/-- What the imports are sorted by: the alias or else the name, and then the name. -/
def sortKey (i : Import) : String × String :=
  (if i.aliasName = "" then i.space else i.aliasName, i.space)

/-- The first import is not sorted behind the second. -/
def sortsBefore (i j : Import) : Bool :=
  let a := sortKey i
  let b := sortKey j
  a.1 < b.1 || (a.1 == b.1 && a.2 ≤ b.2)

def imports (policy : NamePolicy) (ns : Namespaces) : List Import :=
  let all := ns.aliases.entries.map fun (space, aliasName) => Import.mk space aliasName
  match policy with
  | .full => all
  | .short => all.mergeSort sortsBefore

end Namespaces

end DocScript
