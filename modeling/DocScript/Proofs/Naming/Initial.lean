import DocScript.Proofs.Naming.Clash
import DocScript.Proofs.Text.Letter

/-!
# The first character of an alias

The alias of a namespace stands at the start of the names of its variables, so that it should begin
with a letter. It does if and only if there is a letter to begin with: that of the markup prefix,
or else of the capitals and digits of the namespace or of its word characters. A number behind the
alias changes nothing, and the names of variables begin with a letter just as the alias does.
-/

namespace DocScript

open Text

mutual

/-- The types whose own namespaces are registered for a type, in order. -/
def TypeId.entered : TypeId → List TypeId
  | ⟨space, name, args⟩ => enteredAll args ++ [⟨space, name, args⟩]

def TypeId.enteredAll : List TypeId → List TypeId
  | [] => []
  | t :: rest => entered t ++ enteredAll rest

end

namespace Namespaces

variable {schema : Registry} {ns ns' : Namespaces} {t u : TypeId} {calls : List Registration}

mutual

theorem register_eq_foldl (schema : Registry) (ns : Namespaces) : ∀ t : TypeId,
    ns.register schema t = t.entered.foldl (registerSpace schema) ns
  | ⟨space, name, args⟩ => by
    rw [register, registerAll_eq_foldl schema ns args, TypeId.entered, List.foldl_append]
    rfl

theorem registerAll_eq_foldl (schema : Registry) (ns : Namespaces) : ∀ ts : List TypeId,
    ns.registerAll schema ts = (TypeId.enteredAll ts).foldl (registerSpace schema) ns
  | [] => rfl
  | t :: rest => by
    rw [registerAll, register_eq_foldl schema ns t, registerAll_eq_foldl schema _ rest,
      TypeId.enteredAll, List.foldl_append]

end

/-- Registrations come to the namespace of a type, of an argument perhaps, while the table is as
given. -/
def Meets (schema : Registry) (calls : List Registration) (ns : Namespaces) (t : TypeId) : Prop :=
  ∃ before u after, calls = before ++ .type u :: after ∧
    ∃ args more, u.entered = args ++ t :: more ∧
      ns = args.foldl (registerSpace schema) (performAll schema .empty before)

theorem le_foldl (schema : Registry) (ns : Namespaces) (ts : List TypeId) :
    ns ≤ ts.foldl (registerSpace schema) ns := by
  induction ts generalizing ns with
  | nil => exact le_refl ns
  | cons t rest ih => exact le_trans (le_registerSpace schema ns t) (ih _)

/-- What is entered where registrations come to stays to the end. -/
theorem Meets.le (meets : Meets schema calls ns t) :
    registerSpace schema ns t ≤ performAll schema .empty calls := by
  obtain ⟨before, u, after, rfl, args, more, order, rfl⟩ := meets
  have step : perform schema (performAll schema .empty before) (.type u) =
      more.foldl (registerSpace schema) (registerSpace schema
        (args.foldl (registerSpace schema) (performAll schema .empty before)) t) := by
    rw [perform, register_eq_foldl, order, List.foldl_append, List.foldl_cons]
  rw [performAll_append]
  change _ ≤ performAll schema (perform schema (performAll schema .empty before) (.type u)) after
  rw [step]
  exact le_trans (le_foldl schema _ more) (le_performAll schema _ after)

theorem aliasOf_registerSpace (unknown : ns.contains t.space = false)
    (collision : collides schema ns t = true) :
    (registerSpace schema ns t).aliasOf t.space = chooseAlias schema ns t := by
  rw [registerSpace, if_neg (Bool.eq_false_iff.mp unknown), if_pos collision, aliasOf,
    OrderedMap.get?_insert_self]
  rfl

/-- Nothing can be made of a namespace without word characters; a letter is one of them. -/
theorem wantedAlias_eq_empty_iff : wantedAlias schema t = "" ↔
    schema.prefixOf? t = none ∧ wordChars t.space = "" := by
  constructor
  · intro empty
    refine ⟨Option.eq_none_iff_forall_ne_some.mpr fun p given => ?_, wordChars_of_wantedAlias empty⟩
    have kept := (Option.filter_eq_some_iff.mp given).2
    rw [wantedAlias, given] at empty
    exact absurd (upper_eq_empty_iff.mp empty) (by simpa using kept)
  · rintro ⟨none, bare⟩
    rw [wantedAlias, none]
    dsimp only
    split
    · next letter =>
      obtain ⟨c, first, letter⟩ := (Option.any_eq_true _ _).mp letter
      have member : c ∈ (upperCaseAndDigitChars t.space).toList := List.mem_of_head? first
      rw [upperCaseAndDigitChars, String.toList_ofList, List.mem_filter] at member
      have word : isWord c = true := by rw [isWord, letter, Bool.true_or, Bool.true_or, Bool.true_or]
      have kept : c ∈ (wordChars t.space).toList := by
        rw [wordChars, String.toList_ofList, List.mem_filter]
        exact ⟨member.1, word⟩
      rw [bare] at kept
      cases kept
    · rw [bare]
      rfl

theorem chooseAlias_eq_empty_iff (schema : Registry) (ns : Namespaces) (t : TypeId) :
    chooseAlias schema ns t = "" ↔ wantedAlias schema t = "" := by
  rcases chooseAlias_cases schema ns t with ⟨chosen, _⟩ | ⟨used, n, _, chosen, _⟩
  · rw [chosen]
  · have wanted := (mem_taken.mp used).1
    rw [chosen]
    exact iff_of_false (fun empty => wanted (String.append_eq_empty_iff.mp empty).1) wanted

/-! ### First characters -/

/-- There is a letter for an alias to begin with: that of the prefix, which an iota subscript
becomes in upper case, or else of the capitals and digits or of the word characters. -/
def Spellable (schema : Registry) (t : TypeId) : Prop :=
  (∃ p c, schema.prefixOf? t = some p ∧ p.toList.head? = some c ∧
    (isLetter c = true ∨ c = iotaSubscript)) ∨
  schema.prefixOf? t = none ∧ (leads (upperCaseAndDigitChars t.space).toList = true ∨
    leads (wordChars t.space).toList = true)

/-- The iota subscript is no word character. -/
theorem leads_upper_wordChars (s : String) :
    leads (upper (wordChars s)).toList = leads (wordChars s).toList := by
  have mark : isWord iotaSubscript = false := by decide +kernel
  rw [leads_upper, leads]
  cases chars : (wordChars s).toList with
  | nil => rfl
  | cons c rest =>
    have word : isWord c = true := by
      rw [wordChars, String.toList_ofList] at chars
      exact (List.mem_filter.mp (chars ▸ List.mem_cons_self)).2
    have other : (c == iotaSubscript) = false := beq_eq_false_iff_ne.mpr fun same => by
      rw [same, mark] at word
      cases word
    rw [List.head?_cons, Option.any_some, Option.any_some, other, Bool.or_false]

theorem leads_wantedAlias : leads (wantedAlias schema t).toList = true ↔ Spellable schema t := by
  rw [wantedAlias, Spellable]
  cases schema.prefixOf? t with
  | some p =>
    dsimp only
    rw [leads_upper, Option.any_eq_true]
    simp
  | none =>
    dsimp only
    split
    · next letter => exact iff_of_true letter (Or.inr ⟨rfl, Or.inl letter⟩)
    · next other =>
      rw [leads_upper_wordChars]
      constructor
      · exact fun word => Or.inr ⟨rfl, Or.inr word⟩
      · rintro (⟨_, _, given, _⟩ | ⟨_, short | word⟩)
        · cases given
        · exact (other short).elim
        · exact word

/-- A number is put behind an alias that is taken, and no empty alias is taken. -/
theorem leads_chooseAlias (schema : Registry) (ns : Namespaces) (t : TypeId) :
    leads (chooseAlias schema ns t).toList = leads (wantedAlias schema t).toList := by
  rcases chooseAlias_cases schema ns t with ⟨chosen, _⟩ | ⟨used, n, _, chosen, _⟩
  · rw [chosen]
  · have filled : (wantedAlias schema t).toList ≠ [] := fun empty =>
      (mem_taken.mp used).1 (String.toList_inj.mp empty)
    rw [chosen, String.toList_append, leads_append filled]

theorem leads_variableName (aliased : ns.aliasOf u.space ≠ "") (n : Nat) :
    leads (variableName ns u n).toList = leads (ns.aliasOf u.space).toList := by
  have filled : (lower (ns.aliasOf u.space)).toList ≠ [] := fun empty =>
    aliased (lower_eq_empty_iff.mp (String.toList_eq_nil_iff.mp empty))
  rw [variableName, leads_camelCase]
  simp only [String.toList_append, List.append_assoc]
  rw [leads_append filled, leads_lower]

/-- A namespace that collides where registrations come to it has its alias for good. The alias is
empty if and only if there is no prefix and no word character, and it begins with a letter if and
only if there is one to begin with. The names of variables begin with a letter just as an alias
that is not empty. -/
theorem aliases_lead_iff {schema : Registry} {calls : List Registration} {ns : Namespaces}
    {t : TypeId} (meets : Meets schema calls ns t) (unknown : ns.contains t.space = false)
    (collision : collides schema ns t = true) :
    let last := performAll schema .empty calls
    (last.aliasOf t.space = "" ↔ schema.prefixOf? t = none ∧ wordChars t.space = "") ∧
      (leads (last.aliasOf t.space).toList = true ↔ Spellable schema t) ∧
      (last.aliasOf t.space ≠ "" → ∀ u n, u.space = t.space →
        leads (variableName last u n).toList = leads (last.aliasOf t.space).toList) := by
  intro last
  have settled : last.aliasOf t.space = chooseAlias schema ns t := by
    rw [aliasOf_of_le meets.le (contains_registerSpace schema ns t),
      aliasOf_registerSpace unknown collision]
  refine ⟨?_, ?_, fun filled u n same => ?_⟩
  · rw [settled, chooseAlias_eq_empty_iff, wantedAlias_eq_empty_iff]
  · rw [settled, leads_chooseAlias, leads_wantedAlias]
  · rw [← same] at filled ⊢
    exact leads_variableName filled n

/-- One name in two namespaces, and the second begins with a number. -/
def dated : Registry :=
  let types : List TypeId := [.plain "main" "Foo", .plain "2010.main" "Foo"]
  ⟨.empty, .empty, .empty, .empty, types, Schema.standardRawKind, .standard⟩

/-- The names of variables begin with the number as well. -/
theorem dated_misspelt :
    let calls : List Registration := [.type (.plain "main" "Foo"), .type (.plain "2010.main" "Foo")]
    let last := performAll dated .empty calls
    last.aliasOf "2010.main" = "2010MAIN" ∧ ¬ Spellable dated (.plain "2010.main" "Foo") ∧
      ∀ n, leads (variableName last (.plain "2010.main" "Foo") n).toList = false := by
  intro calls last
  have meets : Meets dated calls ⟨.ofList [("main", "")]⟩ (.plain "2010.main" "Foo") :=
    ⟨[.type (.plain "main" "Foo")], _, [], rfl, [], [], rfl, by decide +kernel⟩
  have named : last.aliasOf "2010.main" = "2010MAIN" := by decide +kernel
  have digit : leads "2010MAIN".toList = false := by decide +kernel
  obtain ⟨_, spelt, alike⟩ := aliases_lead_iff meets (by decide +kernel) (by decide +kernel)
  rw [TypeId.plain, named] at spelt alike
  rw [digit] at spelt alike
  exact ⟨named, fun spellable => Bool.false_ne_true (spelt.mpr spellable),
    fun n => alike (by decide) _ n rfl⟩

end Namespaces

end DocScript
