import DocScript.Naming.Pool
import DocScript.Proofs.OrderedMap

/-!
# Aliases are kept

Registration only adds namespaces. What a registered namespace is called, and with it the name of
each of its types and variables, stays the same to the end of a run.
-/

namespace DocScript.Namespaces

variable {schema : Registry} {ns ns' ns'' : Namespaces} {t : TypeId} {space : String}

/-- The second table has all namespaces of the first, with the same aliases. -/
instance : LE Namespaces := ⟨fun ns ns' => ns.aliases ≤ ns'.aliases⟩

theorem le_refl (ns : Namespaces) : ns ≤ ns := OrderedMap.le_refl _

theorem le_trans (h : ns ≤ ns') (h' : ns' ≤ ns'') : ns ≤ ns'' := OrderedMap.le_trans h h'

theorem le_insert {aliasName : String} (h : ns.contains space = false) :
    ns ≤ ⟨ns.aliases.insert space aliasName⟩ :=
  OrderedMap.le_insert aliasName (Option.isNone_iff_eq_none.mp (Option.isSome_eq_false_iff.mp h))

theorem contains_of_le (h : ns ≤ ns') (known : ns.contains space = true) :
    ns'.contains space = true := by
  obtain ⟨aliasName, found⟩ := OrderedMap.contains_iff.mp known
  exact OrderedMap.contains_iff.mpr ⟨aliasName, h space aliasName found⟩

theorem le_registerSpace (schema : Registry) (ns : Namespaces) (t : TypeId) :
    ns ≤ registerSpace schema ns t := by
  unfold registerSpace
  split
  · exact le_refl ns
  · next unknown => exact le_insert (Bool.eq_false_iff.mpr unknown)

theorem contains_registerSpace (schema : Registry) (ns : Namespaces) (t : TypeId) :
    (registerSpace schema ns t).contains t.space = true := by
  unfold registerSpace
  split
  · assumption
  · exact OrderedMap.contains_iff.mpr ⟨_, OrderedMap.get?_insert_self _ _ _⟩

mutual

theorem le_register (schema : Registry) (ns : Namespaces) :
    ∀ t : TypeId, ns ≤ register schema ns t
  | ⟨_, _, args⟩ => by
    rw [register]
    exact le_trans (le_registerAll schema ns args) (le_registerSpace _ _ _)

theorem le_registerAll (schema : Registry) (ns : Namespaces) :
    ∀ ts : List TypeId, ns ≤ registerAll schema ns ts
  | [] => by
    rw [registerAll]
    exact le_refl ns
  | t :: rest => by
    rw [registerAll]
    exact le_trans (le_register schema ns t) (le_registerAll schema _ rest)

end

theorem contains_register (schema : Registry) (ns : Namespaces) (t : TypeId) :
    (register schema ns t).contains t.space = true := by
  obtain ⟨space, name, args⟩ := t
  rw [register]
  exact contains_registerSpace _ _ _

theorem le_addPlain (ns : Namespaces) (space : String) : ns ≤ ns.addPlain space := by
  unfold addPlain
  split
  · exact le_refl ns
  · next unknown => exact le_insert (Bool.eq_false_iff.mpr unknown)

theorem contains_addPlain (ns : Namespaces) (space : String) :
    (ns.addPlain space).contains space = true := by
  unfold addPlain
  split
  · assumption
  · exact OrderedMap.contains_iff.mpr ⟨_, OrderedMap.get?_insert_self _ _ _⟩

theorem get?_of_le (h : ns ≤ ns') (known : ns.contains space = true) :
    ns'.aliases.get? space = ns.aliases.get? space := by
  obtain ⟨aliasName, found⟩ := OrderedMap.contains_iff.mp known
  rw [found, h space aliasName found]

theorem aliasOf_of_le (h : ns ≤ ns') (known : ns.contains space = true) :
    ns'.aliasOf space = ns.aliasOf space := by
  rw [aliasOf, aliasOf, get?_of_le h known]

theorem typeName_of_le (policy : NamePolicy) (h : ns ≤ ns') (known : ns.contains t.space = true) :
    ns'.typeName policy t = ns.typeName policy t := by
  unfold typeName
  rw [get?_of_le h known]

theorem variableName_of_le (h : ns ≤ ns') (known : ns.contains t.space = true) (n : Nat) :
    variableName ns' t n = variableName ns t n := by
  rw [variableName, variableName, aliasOf_of_le h known]

end DocScript.Namespaces
