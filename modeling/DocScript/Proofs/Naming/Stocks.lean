import DocScript.Proofs.Naming.Stock

/-!
# Variables of all types

The stocks of all types together, and the pools that track them. The main statements are
`Pools.Tracks.acquire` and `Pools.Tracks.release`; they hold for every order of calls.
-/

namespace DocScript

/-- A variable: the type of the objects that it holds, and its number among those of the type. -/
structure Variable where
  type : TypeId
  number : Nat
  deriving DecidableEq

def Variable.name (v : Variable) (ns : Namespaces) : String := variableName ns v.type v.number

theorem Variable.name_of_le {v : Variable} {ns ns' : Namespaces} (h : ns ≤ ns')
    (known : ns.contains v.type.space = true) : v.name ns' = v.name ns :=
  Namespaces.variableName_of_le h known v.number

theorem Variable.name_inj {t : TypeId} {m n : Nat} {ns : Namespaces}
    (h : Variable.name ⟨t, m⟩ ns = Variable.name ⟨t, n⟩ ns) : m = n := variableName_inj h

abbrev Stocks := TypeId → Stock

namespace Stocks

def empty : Stocks := fun _ => .empty

def set (t : TypeId) (s : Stock) (stocks : Stocks) : Stocks :=
  fun u => if u = t then s else stocks u

/-- Takes a variable of a type. The flag says that it was in use before. -/
def take (unique : Bool) (t : TypeId) (stocks : Stocks) : (Variable × Bool) × Stocks :=
  let ((n, again), s) := (stocks t).take unique
  ((⟨t, n⟩, again), stocks.set t s)

def give (unique : Bool) (v : Variable) (stocks : Stocks) : Stocks :=
  stocks.set v.type ((stocks v.type).give unique v.number)

def InUse (stocks : Stocks) (v : Variable) : Prop := (stocks v.type).InUse v.number

def Sound (unique : Bool) (stocks : Stocks) : Prop := ∀ t, (stocks t).Sound unique

variable {unique : Bool} {stocks : Stocks} {t u : TypeId} {s : Stock} {v x : Variable}

@[simp] theorem set_self (t : TypeId) (s : Stock) (stocks : Stocks) : stocks.set t s t = s :=
  if_pos rfl

theorem set_of_ne (s : Stock) (stocks : Stocks) (h : u ≠ t) : stocks.set t s u = stocks u :=
  if_neg h

@[simp] theorem type_take (unique : Bool) (t : TypeId) (stocks : Stocks) :
    (stocks.take unique t).1.1.type = t := rfl

theorem sound_empty (unique : Bool) : empty.Sound unique := fun _ => Stock.sound_empty unique

theorem Sound.set (sound : stocks.Sound unique) (h : s.Sound unique) :
    (stocks.set t s).Sound unique := by
  intro u
  by_cases same : u = t
  · rw [same, set_self]
    exact h
  · rw [set_of_ne _ _ same]
    exact sound u

theorem Sound.take (sound : stocks.Sound unique) : (stocks.take unique t).2.Sound unique :=
  sound.set (sound t).take

theorem Sound.give (sound : stocks.Sound unique) (used : stocks.InUse v) :
    (stocks.give unique v).Sound unique :=
  sound.set ((sound v.type).give used)

theorem Sound.inUse_take (sound : stocks.Sound unique) :
    (stocks.take unique t).2.InUse (stocks.take unique t).1.1 ∧
      ¬ stocks.InUse (stocks.take unique t).1.1 := by
  obtain ⟨used, fresh⟩ := (sound t).inUse_take
  refine ⟨?_, fresh⟩
  change (stocks.set t _ t).InUse _
  rw [set_self]
  exact used

theorem InUse.set_of_ne (used : stocks.InUse v) (other : v.type ≠ t) :
    (stocks.set t s).InUse v := by
  unfold InUse
  rw [Stocks.set_of_ne _ _ other]
  exact used

theorem InUse.take (used : stocks.InUse v) : (stocks.take unique t).2.InUse v := by
  by_cases same : v.type = t
  · subst same
    change (stocks.set v.type _ v.type).InUse _
    rw [set_self]
    exact Stock.InUse.take used
  · exact used.set_of_ne same

theorem InUse.give (used : stocks.InUse v) (other : v ≠ x) : (stocks.give unique x).InUse v := by
  by_cases same : v.type = x.type
  · obtain ⟨t, n⟩ := v
    obtain ⟨t', m⟩ := x
    obtain rfl : t = t' := same
    change (stocks.set t _ t).InUse _
    rw [set_self]
    exact Stock.InUse.give used fun h => other (congrArg (Variable.mk t) h)
  · exact used.set_of_ne same

end Stocks

/-- Each pool tracks the stock of its type, and its namespace is registered. -/
structure Pools.Tracks (ns : Namespaces) (unique : Bool) (ps : Pools) (stocks : Stocks) : Prop where
  found : ∀ t p, ps.get? t = some p →
    p.type = t ∧ ns.contains t.space = true ∧ p.Tracks ns unique (stocks t)
  missing : ∀ t, ps.get? t = none → stocks t = .empty

namespace Pools.Tracks

variable {ns ns' : Namespaces} {unique : Bool} {ps : Pools} {stocks : Stocks} {t : TypeId}
  {v : Variable} {p : Pool} {s : Stock}

theorem empty (ns : Namespaces) (unique : Bool) : Pools.empty.Tracks ns unique .empty :=
  ⟨(fun _ _ h => nomatch h), fun _ _ => rfl⟩

theorem of_le (h : ps.Tracks ns unique stocks) (le : ns ≤ ns') : ps.Tracks ns' unique stocks := by
  refine ⟨fun t p found => ?_, h.missing⟩
  obtain ⟨type, known, tracks⟩ := h.found t p found
  refine ⟨type, Namespaces.contains_of_le le known, tracks.of_le le ?_⟩
  rw [type]
  exact known

theorem sound (h : ps.Tracks ns unique stocks) : stocks.Sound unique := by
  intro t
  cases found : ps.get? t with
  | none =>
    rw [h.missing t found]
    exact Stock.sound_empty unique
  | some p => exact (h.found t p found).2.2.sound

theorem pool (h : ps.Tracks ns unique stocks) (t : TypeId) :
    ((ps.get? t).getD (.empty t)).type = t ∧
      ((ps.get? t).getD (.empty t)).Tracks ns unique (stocks t) := by
  cases found : ps.get? t with
  | none =>
    rw [h.missing t found]
    exact ⟨rfl, Pool.Tracks.empty ns unique t⟩
  | some p => exact ⟨(h.found t p found).1, (h.found t p found).2.2⟩

theorem insert (h : ps.Tracks ns unique stocks) (known : ns.contains t.space = true)
    (type : p.type = t) (tracks : p.Tracks ns unique s) :
    Pools.Tracks ns unique ⟨ps.byType.insert t p⟩ (stocks.set t s) := by
  refine ⟨fun u q found => ?_, fun u missing => ?_⟩
  · change (ps.byType.insert t p).get? u = some q at found
    by_cases same : u = t
    · rw [same, OrderedMap.get?_insert_self] at found
      obtain rfl := Option.some.inj found
      rw [same, Stocks.set_self]
      exact ⟨type, known, tracks⟩
    · rw [OrderedMap.get?_insert_of_ne _ _ (Ne.symm same)] at found
      rw [Stocks.set_of_ne _ _ same]
      exact h.found u q found
  · change (ps.byType.insert t p).get? u = none at missing
    by_cases same : u = t
    · rw [same, OrderedMap.get?_insert_self] at missing
      cases missing
    · rw [OrderedMap.get?_insert_of_ne _ _ (Ne.symm same)] at missing
      rw [Stocks.set_of_ne _ _ same]
      exact h.missing u missing

/-- The pools hand out the name of the variable that the stocks hand out. -/
theorem acquire (h : ps.Tracks ns unique stocks) (known : ns.contains t.space = true) :
    (ps.acquire ns unique t).1 =
      ((stocks.take unique t).1.1.name ns, (stocks.take unique t).1.2) ∧
    (ps.acquire ns unique t).2.Tracks ns unique (stocks.take unique t).2 := by
  obtain ⟨type, tracks⟩ := h.pool t
  obtain ⟨name, type', tracks'⟩ := tracks.acquire
  refine ⟨?_, h.insert known (type'.trans type) tracks'⟩
  rw [type] at name
  exact name

/-- The pools take back the name of a variable in use. -/
theorem release (h : ps.Tracks ns unique stocks) (used : stocks.InUse v) :
    (ps.release v.type (v.name ns)).Tracks ns unique (stocks.give unique v) := by
  cases found : ps.get? v.type with
  | none =>
    have none : ¬ (stocks v.type).InUse v.number := by
      rw [h.missing _ found]
      exact fun used => Nat.not_lt_zero _ used.1
    exact (none used).elim
  | some p =>
    obtain ⟨type, known, tracks⟩ := h.found _ p found
    obtain ⟨type', tracks'⟩ := tracks.release used
    rw [type] at type' tracks'
    have released : ps.release v.type (v.name ns) =
        ⟨ps.byType.insert v.type (p.release (v.name ns))⟩ := by
      simp only [Pools.release, found]
    rw [released]
    exact h.insert known type' tracks'

end Pools.Tracks

-- From here on names are not computed: what is proved of them holds for any spelling of variables.
attribute [irreducible] Variable.name

end DocScript
