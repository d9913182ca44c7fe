import DocScript.Proofs.Element.Contribution
import DocScript.Proofs.Element.Mentions

/-!
# Names of types in scripts

A script names a type wherever it declares a variable, makes an object, refers to the members of a
type or passes a type as an argument. The arguments of a generic type stand beside its name and are
written without their namespaces, so they are not counted here.
-/

namespace DocScript

namespace Expr

mutual

/-- The texts of an expression that stand for types. -/
def typeNames : Expr → List String
  | type name => [name]
  | constant owner _ => [owner]
  | construct typeName _ args => typeName :: typeNamesAll args
  | call target _ typeArgs args => typeNamesTarget target ++ typeArgs ++ typeNamesAll args
  | primitive _ | var _ | byRef _ => []

def typeNamesTarget : Option Expr → List String
  | none => []
  | some e => typeNames e

def typeNamesAll : List Expr → List String
  | [] => []
  | e :: rest => typeNames e ++ typeNamesAll rest

end

end Expr

namespace Instr

mutual

/-- The texts of an instruction that stand for types, with those inside a scope. -/
def typeNames : Instr → List String
  | declare _ typeName _ value => typeName :: Expr.typeNamesTarget value
  | assign target _ value => target.typeNames ++ value.typeNames
  | invoke call =>
    Expr.typeNamesTarget call.target ++ call.typeArgs ++ Expr.typeNamesAll call.args
  | scope acquire body release => typeNamesAll acquire ++ typeNamesAll body ++ typeNamesAll release
  | comment _ | blank => []

def typeNamesAll : List Instr → List String
  | [] => []
  | i :: rest => typeNames i ++ typeNamesAll rest

end

variable {is js : List Instr}

theorem typeNamesAll_append (is js : List Instr) :
    typeNamesAll (is ++ js) = typeNamesAll is ++ typeNamesAll js := by
  induction is with
  | nil => rfl
  | cons i rest ih => rw [List.cons_append, typeNamesAll, typeNamesAll, ih, List.append_assoc]

theorem mem_typeNamesAll {text : String} : text ∈ typeNamesAll is ↔ ∃ i ∈ is, text ∈ i.typeNames := by
  induction is with
  | nil => simp [typeNamesAll]
  | cons i rest ih => simp [typeNamesAll, ih]

theorem typeNamesAll_eq_nil (silent : ∀ i ∈ is, i.typeNames = []) : typeNamesAll is = [] := by
  induction is with
  | nil => rfl
  | cons i rest ih =>
    rw [typeNamesAll, silent i List.mem_cons_self,
      ih fun j member => silent j (List.mem_cons_of_mem i member)]
    rfl

end Instr

/-- The texts of a routine that stand for types: those of its parameters, of what it does and of what
it returns. -/
def Routine.typeNames (r : Routine) : List String :=
  r.parameters.map (·.typeName) ++ Instr.typeNamesAll r.body ++ r.returnType.toList
    ++ Expr.typeNamesTarget r.returns

/-- Every one of some texts is the name of a type that is mentioned. -/
def Mention.Cover (typeName : TypeId → String) (ms : List Mention) (texts : List String) : Prop :=
  ∀ text ∈ texts, ∃ m ∈ ms, m.text typeName = text

namespace Mention.Cover

variable {typeName : TypeId → String} {ms more : List Mention} {texts others : List String}

theorem nil : Cover typeName ms [] := nofun

theorem append (h : Cover typeName ms texts) (h' : Cover typeName ms others) :
    Cover typeName ms (texts ++ others) := by
  intro text member
  rcases List.mem_append.mp member with early | late
  · exact h text early
  · exact h' text late

theorem mono (h : Cover typeName ms texts) (sub : ms ⊆ more) : Cover typeName more texts := by
  intro text member
  obtain ⟨m, inside, same⟩ := h text member
  exact ⟨m, sub inside, same⟩

theorem all {is : List Instr} (each : ∀ i ∈ is, Cover typeName ms i.typeNames) :
    Cover typeName ms (Instr.typeNamesAll is) := by
  intro text member
  obtain ⟨i, inside, stands⟩ := Instr.mem_typeNamesAll.mp member
  exact each i inside text stands

end Mention.Cover

namespace Compile

open Mention Instr

variable {ctx : Context} {typeName : TypeId → String} {e : Element} {ms : List Mention}
  {name : String} {t : TypeId}

theorem cover_putIn {again : Bool} {value : Expr} (own : .declared t ∈ ms)
    (made : Cover typeName ms value.typeNames) :
    Cover typeName ms (putIn typeName t name again value).typeNames := by
  have self : Cover typeName ms [typeName t] := by
    intro text member
    exact ⟨.declared t, own, (List.mem_singleton.mp member).symm⟩
  unfold putIn
  split
  · simpa [Instr.typeNames, Expr.typeNames] using made
  · exact self.append made

theorem cover_madeExpr {spec : ElementSpec} (own : .declared e.type ∈ ms)
    (kind : kindMentions ctx spec ⊆ ms) :
    Cover typeName ms (madeExpr ctx typeName e spec).typeNames := by
  have self : ∃ m ∈ ms, m.text typeName = typeName e.type := ⟨.declared e.type, own, rfl⟩
  intro text member
  unfold madeExpr at member
  cases category : spec.category with
  | regular | leafText | opaqueNode =>
    simp [category, Expr.typeNames, Expr.typeNamesAll, Expr.typeNamesTarget, Expr.text] at member
    exact member ▸ self
  | rawPayload =>
    have listed : .declared ctx.registry.rawKind ∈ ms := by
      apply kind
      simp [kindMentions, category]
    simp [category, Expr.typeNames, Expr.typeNamesAll, Expr.text] at member
    rcases member with rfl | rfl
    · exact self
    · exact ⟨_, listed, rfl⟩

/-- The objects that an element owns are of types that it mentions. -/
theorem cover_ownedObjects {r : ResolvedElement} {o : Owned}
    (values : r.complex.flatMap (valueMentions e) ⊆ ms) (bag : bagMentions ctx e ⊆ ms)
    (member : o ∈ ownedObjects ctx typeName e r) :
    .declared o.type ∈ ms ∧ Cover typeName ms o.made.typeNames := by
  have made (own : .declared o.type ∈ ms) (arguments : List String) :
      Cover typeName ms (Expr.construct (typeName o.type) arguments []).typeNames := by
    intro text inside
    simp only [Expr.typeNames, Expr.typeNamesAll, List.mem_singleton] at inside
    exact ⟨_, own, inside.symm⟩
  rcases List.mem_append.mp member with value | rules
  · obtain ⟨p, property, object⟩ := List.mem_filterMap.mp value
    obtain ⟨raw, found, rfl⟩ := Option.map_eq_some_iff.mp object
    have own : Mention.declared p.2 ∈ ms := by
      apply values
      exact List.mem_flatMap.mpr ⟨p, property, by simp [valueMentions, found]⟩
    exact ⟨own, made own _⟩
  · rw [Option.mem_toList] at rules
    obtain ⟨markup, found, rfl⟩ := Option.map_eq_some_iff.mp rules
    have own : Mention.declared ctx.registry.bag.type ∈ ms := by
      apply bag
      simp [bagMentions, found]
    exact ⟨own, made own _⟩

theorem cover_kept {k : Kept} (own : .declared k.object.type ∈ ms)
    (made : Cover typeName ms k.object.made.typeNames) :
    Cover typeName ms (typeNamesAll (k.code typeName)) := by
  rw [Kept.code, List.cons_append, typeNamesAll, typeNamesAll_append]
  refine (cover_putIn own made).append ?_
  rw [typeNamesAll_eq_nil]
  · exact .nil
  · intro i member
    obtain ⟨field, _, rfl⟩ := List.mem_map.mp member
    rfl

theorem cover_simpleSetting {p : String × Primitive} {s : Setting}
    (date : simpleMentions e p ⊆ ms) (set : simpleSetting typeName e p = some s) :
    Cover typeName ms (s.instr name).typeNames := by
  obtain ⟨raw, found, rfl⟩ := Option.map_eq_some_iff.mp set
  unfold simpleMentions at date
  simp only [found] at date
  cases fits : (Raw.json raw).coerce? p.2 with
  | none => exact .nil
  | some value =>
    cases value with
    | literal l => exact .nil
    | moment m =>
      simp only [fits] at date
      intro text member
      simp [Setting.instr, Instr.set, Instr.typeNames, Expr.typeNames, momentObject,
        Expr.typeNamesAll] at member
      rcases member with rfl | rfl
      · exact ⟨.library momentType, date (by simp [momentMentions]), rfl⟩
      · exact ⟨.library momentKindType, date (by simp [momentMentions]), rfl⟩

theorem cover_enumSetting {p : String × EnumSpec} {s : Setting} (own : enumMentions e p ⊆ ms)
    (set : enumSetting typeName e p = some s) : Cover typeName ms (s.instr name).typeNames := by
  obtain ⟨raw, found, rfl⟩ := Option.map_eq_some_iff.mp set
  unfold enumMentions at own
  simp only [found] at own
  cases p.2.constant? raw with
  | none => exact .nil
  | some constant =>
    intro text member
    simp [Setting.instr, Instr.set, Instr.typeNames, Expr.typeNames] at member
    exact ⟨.declared p.2.type, own (by simp), member.symm⟩

theorem cover_headCode {r : ResolvedElement} {objects : List Kept} {again : Bool}
    (owns : objects.map (·.object) = ownedObjects ctx typeName e r) (own : .declared e.type ∈ ms)
    (head : headMentions ctx e r ⊆ ms) :
    Cover typeName ms (typeNamesAll (headCode ctx typeName e r objects name again)) := by
  simp only [headMentions, List.append_subset] at head
  obtain ⟨⟨⟨⟨values, bag⟩, kind⟩, dates⟩, enums⟩ := head
  have made : Cover typeName ms (typeNamesAll (objects.flatMap (·.code typeName))) := by
    refine .all fun i member => ?_
    obtain ⟨k, inside, line⟩ := List.mem_flatMap.mp member
    have object : k.object ∈ ownedObjects ctx typeName e r := owns ▸ List.mem_map.mpr ⟨k, inside, rfl⟩
    obtain ⟨type, expr⟩ := cover_ownedObjects values bag object
    exact fun text stands => cover_kept type expr text (mem_typeNamesAll.mpr ⟨i, line, stands⟩)
  have self : Cover typeName ms
      (putIn typeName e.type name again (madeExpr ctx typeName e r.spec)).typeNames :=
    cover_putIn own (cover_madeExpr own kind)
  have simple : Cover typeName ms (typeNamesAll
      ((r.simple.filterMap (simpleSetting typeName e)).map (·.instr name))) := by
    refine .all fun i member => ?_
    obtain ⟨s, inside, rfl⟩ := List.mem_map.mp member
    obtain ⟨p, property, set⟩ := List.mem_filterMap.mp inside
    have date : simpleMentions e p ⊆ ms := fun m mentioned =>
      dates (List.mem_flatMap.mpr ⟨p, property, mentioned⟩)
    exact cover_simpleSetting date set
  have coded : Cover typeName ms (typeNamesAll
      ((r.enums.filterMap (enumSetting typeName e)).map (·.instr name))) := by
    refine .all fun i member => ?_
    obtain ⟨s, inside, rfl⟩ := List.mem_map.mp member
    obtain ⟨p, property, set⟩ := List.mem_filterMap.mp inside
    have type : enumMentions e p ⊆ ms := fun m mentioned =>
      enums (List.mem_flatMap.mpr ⟨p, property, mentioned⟩)
    exact cover_enumSetting type set
  have declared : typeNamesAll (declarations e name) = [] := by
    apply typeNamesAll_eq_nil
    intro i member
    obtain ⟨d, _, rfl⟩ := List.mem_map.mp member
    rfl
  have wired : typeNamesAll (objects.map (·.wiring name)) = [] := by
    apply typeNamesAll_eq_nil
    intro i member
    obtain ⟨k, _, rfl⟩ := List.mem_map.mp member
    rfl
  simp only [headCode, typeNamesAll_append, typeNamesAll, declared, wired, List.append_nil,
    Instr.typeNames]
  exact ((made.append self).append simple).append coded

theorem typeNames_append (child : String) : typeNamesAll (append name child) = [] := by
  unfold append
  split <;> rfl

variable {table : Namespaces}

theorem cover_writtenAll {es : List Element} {code : List Instr}
    (each : ∀ c ∈ es, ∀ out, Written ctx table c out →
      Cover (table.typeName ctx.settings.policy) (elementMentions ctx c)
        (typeNamesAll out.instructions))
    (written : WrittenAll ctx table name es code) :
    Cover (table.typeName ctx.settings.policy) (es.flatMap (elementMentions ctx))
      (typeNamesAll code) := by
  induction es generalizing code with
  | nil =>
    cases written
    exact .nil
  | cons c rest ih =>
    cases written with
    | cons first others =>
      have later := ih (fun d member => each d (List.mem_cons_of_mem c member)) others
      have own := each c List.mem_cons_self _ first
      rw [typeNamesAll_append, typeNamesAll_append, typeNames_append, List.append_nil,
        List.flatMap_cons]
      exact (own.mono (List.subset_append_left _ _)).append
        (later.mono (List.subset_append_right _ _))

/-- What is written for an element tree names only types that the tree mentions. -/
theorem cover_written (e : Element) : ∀ out, Written ctx table e out →
    Cover (table.typeName ctx.settings.policy) (elementMentions ctx e)
      (typeNamesAll out.instructions) := by
  induction e using Element.induction with
  | step e ih =>
    intro out written
    rw [elementMentions_eq]
    cases written with
    | skipped known passed => exact .nil
    | @bare _ r known kept only name again =>
      have own : Mention.declared e.type ∈ [Mention.declared e.type] := List.mem_cons_self
      have bare : kindMentions ctx r.spec ⊆ [.declared e.type] := by simp [kindMentions, only]
      simp only [known, kept, only, if_true, typeNamesAll, List.append_nil]
      exact cover_putIn own (cover_madeExpr own bare)
    | @full _ r known kept more objects owns name again body below =>
      simp only [known, kept, more, if_false, typeNamesAll_append]
      refine Cover.append ?_ ((cover_writtenAll ih below).mono (List.subset_append_right _ _))
      refine cover_headCode owns (by simp) fun m member => ?_
      exact List.mem_append_left _ (List.mem_cons_of_mem _ member)

end Compile

end DocScript
