import Mathlib
import DocScript.Proofs.Element.Creations

/-!
# The types of variables

A declaration names the type of its variable and the simple names of the arguments of the type; a
value that is put into the variable should be of that type. The construction of an element or of a
bag of rules leaves out the arguments, so code is typed just if no such object is of a generic type.
The values of complex properties and the results of factories always fit.
-/

namespace DocScript

open Compile

/-- What a declaration says of a type. -/
structure Signature where
  typeName : String
  typeArgs : List String
  deriving DecidableEq

def TypeId.signature (typeName : TypeId → String) (t : TypeId) : Signature :=
  ⟨typeName t, t.args.map (·.name)⟩

/-- The expression makes an object of a type. A construction names all of the type, and a call of
one of its operations only its name. -/
def Expr.Gives (s : Signature) : Expr → Prop
  | construct typeName typeArgs _ => Signature.mk typeName typeArgs = s
  | call (some (type name)) _ _ _ => name = s.typeName
  | _ => False

namespace Instr

/-- The variable that an instruction declares, with its type. -/
def declarations : Instr → List (String × Signature)
  | declare name typeName typeArgs _ => [(name, ⟨typeName, typeArgs⟩)]
  | _ => []

/-- A value that is put into a variable as a whole is of the type that the variable was declared
with. -/
def Fits (inForce : String → Option Signature) : Instr → Prop
  | declare _ typeName typeArgs (some value) => value.Gives ⟨typeName, typeArgs⟩
  | assign (.var name) none value => ∃ s, inForce name = some s ∧ value.Gives s
  | _ => True

/-- Every instruction fits the declarations before it, of which the latest one of a name counts. -/
def Typed : List (String × Signature) → List Instr → Prop
  | _, [] => True
  | before, i :: rest => i.Fits (fun x => before.lookup x) ∧ Typed (i.declarations ++ before) rest

variable {is : List Instr} {i : Instr} {known : List String} {before : List (String × Signature)}
  {type : String → Signature}

theorem fits_congr {f g : String → Option Signature} (same : ∀ x ∈ i.reads, f x = g x) :
    i.Fits f ↔ i.Fits g := by
  cases i with
  | declare name typeName typeArgs value => cases value <;> rfl
  | assign target member value =>
    cases target <;> cases member <;> try rfl
    next name =>
      have read : name ∈ (assign (.var name) none value).reads :=
        List.mem_append_left _ List.mem_cons_self
      simp only [Fits, same name read]
  | invoke call => rfl
  | comment text => rfl
  | blank => rfl
  | scope acquire body release => rfl

theorem fits_of_not_creates {f : String → Option Signature} (silent : i.creates = false) :
    i.Fits f := by
  cases i with
  | declare name typeName typeArgs value => cases silent
  | assign target member value =>
    cases member with
    | none => cases silent
    | some member => cases target <;> trivial
  | invoke call => trivial
  | comment text => trivial
  | blank => trivial
  | scope acquire body release => trivial

/-- If a name is always declared with one type, then it does not matter where an instruction stands
in code that only mentions what is declared before. -/
theorem typed_iff (closed : Scoped known is)
    (settled : ∀ x ∈ known, before.lookup x = some (type x))
    (declared : ∀ i ∈ is, ∀ d ∈ i.declarations, d.2 = type d.1) :
    Typed before is ↔ ∀ i ∈ is, i.Fits fun x => some (type x) := by
  induction is generalizing known before with
  | nil => simp [Typed]
  | cons i rest ih =>
    obtain ⟨reads, closed⟩ := closed
    have own := declared i List.mem_cons_self
    have first : i.Fits (fun x => before.lookup x) ↔ i.Fits fun x => some (type x) :=
      fits_congr fun x read => settled x (reads x read)
    have later : ∀ x ∈ i.declares ++ known, (i.declarations ++ before).lookup x = some (type x) := by
      intro x member
      cases i with
      | declare name typeName typeArgs value =>
        have same : Signature.mk typeName typeArgs = type name := own _ List.mem_cons_self
        by_cases this : x = name
        · subst this
          simp [declarations, same]
        · have old : x ∈ known := by simpa [declares, this] using member
          have other : (x == name) = false := beq_eq_false_iff_ne.mpr this
          simpa [declarations, List.lookup_cons, other] using settled x old
      | assign target field value => exact settled x member
      | invoke call => exact settled x member
      | comment text => exact settled x member
      | blank => exact settled x member
      | scope acquire body release => exact settled x member
    rw [Typed, first, ih closed later fun j member => declared j (List.mem_cons_of_mem i member),
      List.forall_mem_cons]

end Instr

/-! ### Objects and the types of their variables -/

/-- The expression for an object makes an object of its type. -/
def Made.Fits (typeName : TypeId → String) (m : Made) : Prop :=
  m.value.Gives (m.type.signature typeName)

namespace Compile

variable {ctx : Context} {typeName : TypeId → String}

theorem bare_gives_iff {t : TypeId} {args : List Expr} :
    Expr.Gives (t.signature typeName) (.construct (typeName t) [] args) ↔ t.args = [] := by
  constructor
  · intro same
    have none : [] = t.args.map (·.name) := congrArg Signature.typeArgs same
    exact List.map_eq_nil_iff.mp none.symm
  · intro none
    rw [TypeId.signature, none]
    rfl

theorem self_fits_iff {e : Element} {spec : ElementSpec} (more : spec.category ≠ .opaqueNode) :
    Made.Fits typeName ⟨e.type, madeExpr ctx typeName e spec⟩ ↔ e.type.args = [] := by
  unfold Made.Fits madeExpr
  cases kind : spec.category with
  | regular => exact bare_gives_iff
  | leafText => exact bare_gives_iff
  | rawPayload => exact bare_gives_iff
  | opaqueNode => exact absurd kind more

theorem opaque_fits {e : Element} {spec : ElementSpec} (only : spec.category = .opaqueNode) :
    Made.Fits typeName ⟨e.type, madeExpr ctx typeName e spec⟩ := by
  unfold Made.Fits madeExpr
  rw [only]
  rfl

theorem owned_fit_iff {e : Element} {r : ResolvedElement} :
    (∀ o ∈ ownedObjects ctx typeName e r, o.object.Fits typeName) ↔
      (e.markup ≠ none → ctx.registry.bag.type.args = []) := by
  have values : ∀ o ∈ r.complex.filterMap (complexObject typeName e), o.object.Fits typeName := by
    intro o member
    obtain ⟨p, _, made⟩ := List.mem_filterMap.mp member
    obtain ⟨raw, _, rfl⟩ := Option.map_eq_some_iff.mp made
    rfl
  have bag (rules : MarkupRules) : (Owned.object ⟨ctx.registry.bag.type, ctx.registry.bag.property,
      .construct (typeName ctx.registry.bag.type) [] [], rules.present⟩).Fits typeName ↔
        ctx.registry.bag.type.args = [] := bare_gives_iff
  rw [ownedObjects, List.forall_mem_append, bagObject]
  cases e.markup with
  | none =>
    refine ⟨fun _ rules => absurd rfl rules, fun _ => ⟨values, fun o member => ?_⟩⟩
    cases member
  | some rules =>
    constructor
    · intro fits _
      exact (bag rules).mp (fits.2 _ List.mem_cons_self)
    · intro plain
      refine ⟨values, fun o member => ?_⟩
      obtain rfl := List.mem_singleton.mp member
      exact (bag rules).mpr (plain (Option.some_ne_none rules))

/-- Every object of a tree fits its variable just if no element that is made with its properties is
of a generic type, and neither is any bag of rules. -/
theorem objects_fit_iff (e : Element) :
    (∀ m ∈ objects ctx typeName e, m.Fits typeName) ↔
      ∀ n r, (n, r) ∈ furnished ctx e →
        n.type.args = [] ∧ (n.markup ≠ none → ctx.registry.bag.type.args = []) := by
  refine forall_objects_iff (fun n spec only => opaque_fits only) (fun n r more => ?_) e
  rw [owned_fit_iff, self_fits_iff more, and_comm]

/-! ### Code of plans -/

section

open Instr Stocks

variable {sp : Spelling} {p : Plan}

/-- The type of the first of some variables that has a name. -/
def typeOf (sp : Spelling) (vs : List Variable) (x : String) : Signature :=
  ((vs.find? (sp.variableName · = x)).map (·.type.signature sp.typeName)).getD ⟨"", []⟩

theorem typeOf_name {vs : List Variable} (distinct : (vs.map sp.variableName).Nodup) {v : Variable}
    (member : v ∈ vs) : typeOf sp vs (sp.variableName v) = v.type.signature sp.typeName := by
  have same {x : Variable} (inside : x ∈ vs) (names : sp.variableName x = sp.variableName v) :
      x = v := List.inj_on_of_nodup_map distinct inside member names
  cases found : vs.find? (sp.variableName · = sp.variableName v) with
  | none =>
    have other := List.find?_eq_none.mp found v member
    simp at other
  | some x =>
    have name : sp.variableName x = sp.variableName v := by simpa using List.find?_some found
    obtain rfl := same (List.mem_of_find?_eq_some found) name
    rw [typeOf, found]
    rfl

theorem fits_creation_iff {type : String → Signature} (c : Creation)
    (named : type (sp.variableName c.holder) = c.holder.type.signature sp.typeName) :
    (c.instr sp).Fits (fun x => some (type x)) ↔ c.object.Fits sp.typeName := by
  unfold Creation.instr
  cases c.again with
  | true =>
    simp only [if_true, Instr.Fits, Option.some.injEq, exists_eq_left', named]
    rfl
  | false => rfl

/-- If a plan gives its variables different names, then its code is typed just if its objects fit. -/
theorem typed_code_iff (closed : Scoped [] (p.code sp))
    (distinct : (p.fresh.map sp.variableName).Nodup)
    (made : ∀ c ∈ p.creations, c.holder ∈ p.fresh) :
    Typed [] (p.code sp) ↔ ∀ c ∈ p.creations, c.object.Fits sp.typeName := by
  have named (c : Creation) (member : c ∈ p.creations) := typeOf_name distinct (made c member)
  have creation {i : Instr} (member : i ∈ p.code sp) (creates : i.creates = true) :
      ∃ c ∈ p.creations, i = c.instr sp := by
    have kept : i ∈ (p.code sp).filter Instr.creates := List.mem_filter.mpr ⟨member, creates⟩
    rw [filter_creates_code] at kept
    obtain ⟨c, inside, rfl⟩ := List.mem_map.mp kept
    exact ⟨c, inside, rfl⟩
  have declared : ∀ i ∈ p.code sp, ∀ d ∈ i.declarations, d.2 = typeOf sp p.fresh d.1 := by
    intro i member d declares
    cases i with
    | declare name typeName typeArgs value =>
      obtain ⟨c, inside, same⟩ := creation member rfl
      obtain rfl := List.mem_singleton.mp declares
      unfold Creation.instr at same
      split at same
      · cases same
      · obtain ⟨rfl, rfl, rfl, rfl⟩ := Instr.declare.inj same
        exact (named c inside).symm
    | _ => cases declares
  rw [typed_iff closed (fun x known => by cases known) declared]
  constructor
  · intro fits c member
    apply (fits_creation_iff c (named c member)).mp
    apply fits
    have kept : c.instr sp ∈ (p.code sp).filter Instr.creates := by
      rw [filter_creates_code]
      exact List.mem_map.mpr ⟨c, member, rfl⟩
    exact (List.mem_filter.mp kept).1
  · intro fits i member
    cases creates : i.creates with
    | false => exact fits_of_not_creates creates
    | true =>
      obtain ⟨c, inside, rfl⟩ := creation member creates
      exact (fits_creation_iff c (named c inside)).mpr (fits c inside)

/-- The plan of a tree on its own makes every variable that it uses. -/
theorem holder_mem_fresh {e : Element} (planned : (plan ctx typeName e .empty).1 = some p) :
    ∀ c ∈ p.creations, c.holder ∈ p.fresh := by
  intro c member
  have has := @has_plan ctx typeName e .empty (Stocks.sound_empty _) c
  have made := ((yields_plan ctx typeName e .empty).made c.holder).mpr
  rw [planned] at has made
  simp only [Option.toList_some, List.flatMap_cons, List.flatMap_nil, List.append_nil] at has made
  exact made ⟨Nat.zero_le _, has member⟩

end

open Instr in
/-- If the code of a tree declares no name twice, then each of its objects is made with the type
that its variable was declared with if and only if neither an element that is made with its
properties nor the bag of rules of such an element is of a generic type. -/
theorem root_typed_iff (plain : ctx.handlers = .none) {shared : Shared} {e : Element}
    {out : ElementOutput} {w : Workspace}
    (ran : root ctx (some e) ⟨shared, .empty⟩ = (.ok out, w))
    (once : (declaredIn out.instructions).Nodup) :
    Typed [] out.instructions ↔
      ∀ n r, (n, r) ∈ furnished ctx e →
        n.type.args = [] ∧ (n.markup ≠ none → ctx.registry.bag.type.args = []) := by
  have written := root_ok plain ran
  rw [← objects_fit_iff e, ← plan_objects e .empty, List.forall_mem_map]
  cases planned : (plan ctx (w.shared.namespaces.typeName ctx.settings.policy) e .empty).1 with
  | none =>
    rw [planned] at written
    subst written
    simp [Plan.output, Typed]
  | some p =>
    rw [planned] at written
    subst written
    have closed := scoped_code ctx _ (w.shared.namespaces.spelling ctx.settings.policy) e .empty []
      (Stocks.sound_empty _) (fun _ made => (Nat.not_lt_zero _ made).elim) p planned
    rw [Plan.output, declaredIn_code] at once
    simp only [Option.toList_some, List.flatMap_cons, List.flatMap_nil, List.append_nil]
    exact typed_code_iff closed once (holder_mem_fresh planned)

/-- One type of elements, which is generic. -/
def boxes : Registry :=
  let type : TypeId := ⟨"N", "Box", [.plain "N" "A"]⟩
  ⟨.ofList [(type, ⟨⟨type, .regular, none, [], ""⟩, [], [], []⟩)], .empty, .empty, .empty,
    [type, .plain "N" "A"], Schema.standardRawKind, .standard⟩

def boxContext : Context := ⟨.standard, boxes, .none⟩

def box : Element := .ofType ⟨"N", "Box", [.plain "N" "A"]⟩

/-- The variable of the box is declared with its argument, and the box is made without it. -/
theorem box_mistyped :
    boxContext.handlers = .none ∧ ∃ out w,
      root boxContext (some box) ⟨.start false, .empty⟩ = (.ok out, w) ∧
      (Instr.declaredIn out.instructions).Nodup ∧ ¬ Instr.Typed [] out.instructions := by
  have plain : boxContext.handlers = .none := rfl
  have ends : (root boxContext (some box) ⟨.start false, .empty⟩).1.map
      (fun out => Instr.declaredIn out.instructions) = .ok ["boxA"] := by
    cbv
  obtain ⟨out, ok, declared⟩ := except_map_ok ends
  have ran : root boxContext (some box) ⟨.start false, .empty⟩ = (.ok out, _) := Prod.ext ok rfl
  have once : (Instr.declaredIn out.instructions).Nodup := by
    rw [declared]
    decide
  refine ⟨plain, out, _, ran, once, fun typed => ?_⟩
  have bare := ((root_typed_iff plain ran once).mp typed box _ List.mem_cons_self).1
  cases bare

end Compile

end DocScript
