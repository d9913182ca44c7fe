import DocScript.Naming.Namespaces

/-!
# Names of variables

Each type has a pool of names. A name that has been released is given out again, the latest one
first; only if there is none a new name is made. In unique mode every name is new and the pool
does not keep it. Parts are named by a tally instead: their names are never released.
-/

namespace DocScript

/-- The name of a variable: the alias of the namespace in lower case, the name of the type, the
capitals of its arguments, and a number unless that is zero; the whole starts in lower case. -/
def variableName (ns : Namespaces) (t : TypeId) (attempt : Nat) : String :=
  let marks := t.args.map fun a => Text.titleCase (Text.upperCaseChars a.name)
  let number := if attempt = 0 then "" else Nat.repr attempt
  Text.camelCase (Text.lower (ns.aliasOf t.space) ++ t.name ++ String.join marks ++ number)

structure Pool where
  type : TypeId
  /-- The names that are kept, with `true` for those that are free. -/
  entries : OrderedMap String Bool
  /-- The free names, the latest one first. -/
  free : List String
  /-- How many names were made in unique mode. -/
  uniqueCount : Nat
  deriving DecidableEq

namespace Pool

def empty (t : TypeId) : Pool := ⟨t, .empty, [], 0⟩

def isFree (p : Pool) (name : String) : Bool := (p.entries.get? name).getD false

def liveCount (p : Pool) : Nat := (p.entries.values.filter (!·)).length

/-- Takes a name. The flag says that the name was in use before, so that its variable exists. -/
def acquire (ns : Namespaces) (unique : Bool) (p : Pool) : (String × Bool) × Pool :=
  if unique then
    ((variableName ns p.type p.uniqueCount, false), { p with uniqueCount := p.uniqueCount + 1 })
  else
    match p.free with
    | name :: rest =>
      ((name, true), { p with entries := p.entries.insert name false, free := rest })
    | [] =>
      let name := variableName ns p.type p.entries.size
      ((name, false), { p with entries := p.entries.insert name false })

/-- Gives a name back. A name that is not in use is left alone. -/
def release (name : String) (p : Pool) : Pool :=
  if p.entries.get? name = some false then
    { p with entries := p.entries.insert name true, free := name :: p.free }
  else p

end Pool

/-- The pools of the types that have one, in the order in which they were made. -/
structure Pools where
  byType : OrderedMap TypeId Pool
  deriving DecidableEq

namespace Pools

def empty : Pools := ⟨.empty⟩

def get? (ps : Pools) (t : TypeId) : Option Pool := ps.byType.get? t

def acquire (ns : Namespaces) (unique : Bool) (t : TypeId) (ps : Pools) :
    (String × Bool) × Pools :=
  let (taken, pool) := ((ps.get? t).getD (.empty t)).acquire ns unique
  (taken, ⟨ps.byType.insert t pool⟩)

def release (t : TypeId) (name : String) (ps : Pools) : Pools :=
  match ps.get? t with
  | some p => ⟨ps.byType.insert t (p.release name)⟩
  | none => ps

end Pools

structure Tally where
  counts : OrderedMap String Nat
  deriving DecidableEq

namespace Tally

def empty : Tally := ⟨.empty⟩

/-- The next name for a key: the base, then the base with the numbers from 1. -/
def next (base key : String) (t : Tally) : String × Tally :=
  match t.counts.get? key with
  | some n => (base ++ Nat.repr n, ⟨t.counts.insert key (n + 1)⟩)
  | none => (base, ⟨t.counts.insert key 1⟩)

end Tally

end DocScript
