import DocScript.Proofs.Naming.Registration

/-!
# Texts that two types share

A type is written with its alias, if its namespace has one. Two types whose names have no points
can only be written alike if they have one name and no alias. Registration gives an alias to the
second of two namespaces in which the schema knows one name; this misses the names that the schema
does not know, the namespaces that are added on their own, and those that have nothing to make an
alias of.
-/

namespace DocScript

namespace Namespaces

variable {schema : Registry} {ns : Namespaces} {t u : TypeId} {space other name : String}
  {plain : List String}

/-! ### Reading a text -/

/-- A name without points is what stands behind the last point. -/
theorem after_point_inj {xs ys as bs : List Char} (ha : '.' ∉ as) (hb : '.' ∉ bs)
    (same : xs ++ '.' :: as = ys ++ '.' :: bs) : xs = ys ∧ as = bs := by
  rcases List.append_eq_append_iff.mp same with ⟨more, rfl, rest⟩ | ⟨more, rfl, rest⟩
  · cases more with
    | nil => exact ⟨(List.append_nil xs).symm, (List.cons.inj rest).2⟩
    | cons c more =>
      have inside : '.' ∈ as := by simp [(List.cons.inj rest).2]
      exact (ha inside).elim
  · cases more with
    | nil => exact ⟨List.append_nil ys, (List.cons.inj rest).2.symm⟩
    | cons c more =>
      have inside : '.' ∈ bs := by simp [(List.cons.inj rest).2]
      exact (hb inside).elim

theorem bare_of_aliasOf (known : ns.contains space = true) (bare : ns.aliasOf space = "") :
    ns.aliases.get? space = some "" := by
  obtain ⟨aliasName, found⟩ := OrderedMap.contains_iff.mp known
  rw [aliasOf, found, Option.getD_some] at bare
  rw [found, bare]

theorem typeName_short (known : ns.contains t.space = true) :
    ns.typeName .short t =
      if ns.aliasOf t.space = "" then t.name else ns.aliasOf t.space ++ "." ++ t.name := by
  obtain ⟨aliasName, found⟩ := OrderedMap.contains_iff.mp known
  by_cases empty : aliasName = ""
  · subst empty
    simp [typeName, aliasOf, found]
  · simp [typeName, aliasOf, found, empty]

theorem toList_qualified (aliasName name : String) :
    (aliasName ++ "." ++ name).toList = aliasName.toList ++ '.' :: name.toList := by
  simp

/-- Two registered types are written alike if and only if they have one name, and one namespace or
none of them an alias. -/
theorem typeName_eq_iff (apart : ns.AliasesApart) (knownt : ns.contains t.space = true)
    (knownu : ns.contains u.space = true) (ht : '.' ∉ t.name.toList) (hu : '.' ∉ u.name.toList) :
    ns.typeName .short t = ns.typeName .short u ↔
      t.name = u.name ∧
        (t.space = u.space ∨ ns.aliasOf t.space = "" ∧ ns.aliasOf u.space = "") := by
  rw [typeName_short knownt, typeName_short knownu]
  by_cases barest : ns.aliasOf t.space = "" <;> by_cases bareu : ns.aliasOf u.space = ""
  · simp [barest, bareu]
  · simp only [barest, bareu, if_true, if_false, and_false, or_false]
    constructor
    · intro same
      have inside : '.' ∈ t.name.toList := by
        rw [same, toList_qualified]
        simp
      exact (ht inside).elim
    · rintro ⟨_, spaces⟩
      exact (bareu (spaces ▸ barest)).elim
  · simp only [barest, bareu, if_true, if_false, false_and, or_false]
    constructor
    · intro same
      have inside : '.' ∈ u.name.toList := by
        rw [← same, toList_qualified]
        simp
      exact (hu inside).elim
    · rintro ⟨_, spaces⟩
      exact (barest (spaces ▸ bareu)).elim
  · simp only [barest, bareu, if_false, false_and, or_false]
    constructor
    · intro same
      have chars := congrArg String.toList same
      rw [toList_qualified, toList_qualified] at chars
      obtain ⟨aliases, names⟩ := after_point_inj ht hu chars
      have aliases : ns.aliasOf t.space = ns.aliasOf u.space := String.toList_inj.mp aliases
      obtain ⟨a, founda⟩ := OrderedMap.contains_iff.mp knownt
      obtain ⟨b, foundb⟩ := OrderedMap.contains_iff.mp knownu
      simp only [aliasOf, founda, foundb, Option.getD_some] at aliases barest
      exact ⟨String.toList_inj.mp names, apart _ _ a founda (aliases ▸ foundb) barest⟩
    · rintro ⟨names, spaces⟩
      rw [names, spaces]

/-! ### Namespaces that get no alias -/

/-- Nothing makes sure that the namespace gets an alias: it may be added on its own, or it has
nothing to make an alias of. -/
def Unguarded (plain : List String) (space : String) : Prop :=
  space ∈ plain ∨ Text.wordChars space = ""

/-- Of two namespaces without aliases in which the schema knows one name, one is unguarded. -/
def Guarded (schema : Registry) (plain : List String) (ns : Namespaces) : Prop :=
  ∀ space other name, space ≠ other → ns.aliases.get? space = some "" →
    ns.aliases.get? other = some "" → schema.hasName space name = true →
    schema.hasName other name = true → Unguarded plain space ∨ Unguarded plain other

theorem wordChars_of_wantedAlias (empty : wantedAlias schema t = "") :
    Text.wordChars t.space = "" := by
  unfold wantedAlias at empty
  split at empty
  · next p given =>
    have filled : p ≠ "" := by
      have kept := (Option.filter_eq_some_iff.mp given).2
      simpa using kept
    exact (filled (Text.upper_eq_empty_iff.mp empty)).elim
  · dsimp only at empty
    split at empty
    · next letter =>
      rw [empty] at letter
      cases letter
    · exact Text.upper_eq_empty_iff.mp empty

theorem wordChars_of_chooseAlias (empty : chooseAlias schema ns t = "") :
    Text.wordChars t.space = "" := by
  rcases chooseAlias_cases schema ns t with ⟨chosen, _⟩ | ⟨_, n, _, chosen, _⟩
  · exact wordChars_of_wantedAlias (chosen ▸ empty)
  · rw [chosen] at empty
    exact (Nat.repr_ne_empty (String.append_eq_empty_iff.mp empty).2).elim

theorem hasName_iff : schema.hasName space name = true ↔
    ∃ t ∈ schema.mentioned, t.space = space ∧ t.name = name := by
  simp [Registry.hasName]

theorem mem_namesIn : name ∈ schema.namesIn space ↔ schema.hasName space name = true := by
  rw [Registry.namesIn, List.mem_mergeSort, List.mem_eraseDups, hasName_iff]
  simp [and_assoc]

theorem collides_of_hasName (different : other ≠ t.space) (known : ns.contains other = true)
    (own : schema.hasName t.space name = true) (shared : schema.hasName other name = true) :
    collides schema ns t = true := by
  have member : other ∈ ns.aliases.keys := OrderedMap.contains_iff_mem_keys.mp known
  unfold collides
  dsimp only
  rw [Bool.or_eq_true, List.any_eq_true, List.any_eq_true]
  refine Or.inr ⟨name, mem_namesIn.mpr own, List.any_eq_true.mpr ⟨other, ?_, shared⟩⟩
  simp [member, different]

theorem Guarded.insert {aliasName : String} (h : Guarded schema plain ns)
    (reason : aliasName = "" → Unguarded plain space ∨ ∀ other name, other ≠ space →
      ns.contains other = true → schema.hasName space name = true →
      ¬ schema.hasName other name = true) :
    Guarded schema plain ⟨ns.aliases.insert space aliasName⟩ := by
  intro first second name different bare bare' own shared
  simp only [OrderedMap.get?_insert] at bare bare'
  split at bare <;> split at bare'
  · next a b => exact (different (a.symm.trans b)).elim
  · next same other =>
    subst same
    rcases reason (Option.some.inj bare) with unguarded | apart
    · exact Or.inl unguarded
    · exact (apart second name (Ne.symm different) (OrderedMap.contains_iff.mpr ⟨_, bare'⟩) own
        shared).elim
  · next other same =>
    subst same
    rcases reason (Option.some.inj bare') with unguarded | apart
    · exact Or.inr unguarded
    · exact (apart first name different (OrderedMap.contains_iff.mpr ⟨_, bare⟩) shared own).elim
  · exact h first second name different bare bare' own shared

theorem Guarded.registerSpace (h : Guarded schema plain ns) (t : TypeId) :
    Guarded schema plain (Namespaces.registerSpace schema ns t) := by
  unfold Namespaces.registerSpace
  split
  · exact h
  · refine h.insert fun empty => ?_
    split at empty
    · exact Or.inl (Or.inr (wordChars_of_chooseAlias empty))
    · next free =>
      exact Or.inr fun other name different known own shared =>
        free (collides_of_hasName different known own shared)

theorem Guarded.addPlain (h : Guarded schema plain ns) (member : space ∈ plain) :
    Guarded schema plain (ns.addPlain space) := by
  unfold Namespaces.addPlain
  split
  · exact h
  · exact h.insert fun _ => Or.inl (Or.inl member)

theorem guarded_performAll (h : Guarded schema plain ns) (calls : List Registration)
    (listed : ∀ space, .space space ∈ calls → space ∈ plain) :
    Guarded schema plain (performAll schema ns calls) := by
  induction calls generalizing ns with
  | nil => exact h
  | cons call rest ih =>
    have step : Guarded schema plain (perform schema ns call) := by
      cases call with
      | type t => exact keeps_register (fun _ t h => h.registerSpace t) t h
      | space name => exact h.addPlain (listed name List.mem_cons_self)
    exact ih step fun space member => listed space (List.mem_cons_of_mem _ member)

theorem guarded_empty : Guarded schema plain .empty := nofun

end Namespaces

end DocScript
