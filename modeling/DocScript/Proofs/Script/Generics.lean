import Mathlib
import DocScript.Proofs.Element.Typing
import DocScript.Proofs.Script.Imports

/-!
# Generic types in scripts

A script tells generic types apart by their names and by the simple names of their arguments: an
object is declared with these, wherever in the script its tree is rebuilt. The namespaces of the
arguments and what they are applied to themselves are left out, so two types that differ only there
are declared alike. Parts are declared without any arguments.
-/

namespace DocScript

open Compile Walked

/-- The tree that a part holds. -/
def Part.tree? (p : Part) : Option Element :=
  match p.content with
  | .root e => some e
  | _ => none

/-- The trees that a script for a target rebuilds, given the parts that it visits. -/
def Target.trees : Target → List Part → List Element
  | .element e _, _ => [e]
  | _, ps => ps.filterMap (·.tree?)

/-- The parts that a script for a target creates: all that it visits except a part to start from. -/
def Target.created : Target → List Part → List Part
  | .part _ _, ps => ps.tail
  | _, ps => ps

theorem Namespaces.typeName_congr (policy : NamePolicy) (ns : Namespaces) {t u : TypeId}
    (spaces : t.space = u.space) (names : t.name = u.name) :
    ns.typeName policy t = ns.typeName policy u := by
  unfold Namespaces.typeName TypeId.fullName
  rw [spaces, names]

/-- Types of one name in one namespace are declared alike just if the simple names of their arguments
are the same. -/
theorem TypeId.signature_eq_iff {typeName : TypeId → String} {t u : TypeId}
    (same : typeName t = typeName u) :
    t.signature typeName = u.signature typeName ↔ t.args.map (·.name) = u.args.map (·.name) := by
  rw [signature, signature, Signature.mk.injEq, same]
  exact and_iff_right rfl

section

variable {ctx : Context} {graph : Graph} {ns : Namespaces} {typeName : TypeId → String}
  {parent : String} {parentType : TypeId} {es : List Edge} {ps : List Part} {is : List Instr}
  {rs : List Routine}

theorem creationCode_declares (e : Edge) (part : Part) (name : String) :
    ∃ value, Instr.declare name (typeName part.type) [] (some value) ∈
      creationCode ctx typeName parent parentType e part name := by
  unfold creationCode
  split
  · exact ⟨_, List.mem_cons_self⟩
  · exact ⟨_, List.mem_cons_self⟩

theorem writes_declare (writes : Writes ctx graph typeName parent parentType es ps is) :
    ∀ p ∈ ps, ∃ name value, Instr.declare name (typeName p.type) [] (some value) ∈ is := by
  induction writes with
  | done => exact fun p member => by cases member
  | again found name others ih =>
    intro p member
    obtain ⟨x, value, inside⟩ := ih p member
    exact ⟨x, value, List.mem_cons_of_mem _ inside⟩
  | @first parent parentType e rest part below more is js found name inner others ihBelow ihMore =>
    intro p member
    simp only [List.cons_append, List.mem_cons, List.mem_append] at member
    rcases member with rfl | deeper | later
    · obtain ⟨value, inside⟩ :=
        @creationCode_declares ctx typeName parent parentType e p name
      exact ⟨name, value, by simp [partCode, inside]⟩
    · obtain ⟨x, value, inside⟩ := ihBelow p deeper
      exact ⟨x, value, by simp [inside]⟩
    · obtain ⟨x, value, inside⟩ := ihMore p later
      exact ⟨x, value, by simp [inside]⟩

/-- The routine puts the objects of a tree into variables, in order, and nothing else. -/
def Routine.Rebuilds (ctx : Context) (typeName : TypeId → String) (e : Element) (r : Routine) : Prop :=
  List.Forall₂ (Made.Put typeName) (objects ctx typeName e) (r.body.filter Instr.creates)

theorem writesRoutine_rebuilds {p : Part} {e : Element} {r : Routine} (holds : p.tree? = some e)
    (writes : WritesRoutine ctx ns p r) : r.Rebuilds ctx (ns.typeName ctx.settings.policy) e := by
  unfold Part.tree? at holds
  cases writes with
  | made name content =>
    cases content with
    | none content => simp [content] at holds
    | binary content => simp [content] at holds
    | @root e' out assignment content tree assigned =>
      simp only [content, Option.some.injEq] at holds
      subst holds
      have silent : assignment.filter Instr.creates = [] := by
        rcases rootAssignment_ok assigned with rfl | ⟨_, property, rfl⟩ <;> rfl
      unfold Routine.Rebuilds
      rw [List.filter_append, silent, List.append_nil]
      exact written_puts e' out tree

theorem fills_rebuild (filled : List.Forall₂ (WritesRoutine ctx ns) ps rs) :
    ∀ e ∈ ps.filterMap (·.tree?), ∃ r ∈ rs, r.Rebuilds ctx (ns.typeName ctx.settings.policy) e := by
  intro e member
  obtain ⟨p, visited, holds⟩ := List.mem_filterMap.mp member
  obtain ⟨r, inside, writes⟩ := forall₂_mem_left filled p visited
  exact ⟨r, inside, writesRoutine_rebuilds holds writes⟩

theorem Target.Written.rebuilds {target : Target} (written : target.Written ctx ns ps rs) :
    ∀ e ∈ target.trees ps, ∃ r ∈ rs, r.Rebuilds ctx (ns.typeName ctx.settings.policy) e := by
  cases written with
  | @element e graph out tree =>
    intro e' member
    obtain rfl := List.mem_singleton.mp member
    exact ⟨_, List.mem_cons_self, written_puts e' out tree⟩
  | part inside explores edges filled =>
    intro e member
    obtain ⟨r, inside, rebuilds⟩ := fills_rebuild filled e member
    exact ⟨r, List.mem_cons_of_mem _ inside, rebuilds⟩
  | package explores edges filled =>
    intro e member
    obtain ⟨r, inside, rebuilds⟩ := fills_rebuild filled e member
    exact ⟨r, List.mem_cons_of_mem _ (List.mem_cons_of_mem _ inside), rebuilds⟩

theorem Target.Written.creates {target : Target} (written : target.Written ctx ns ps rs) :
    ∀ p ∈ target.created ps, ∃ r ∈ rs, ∃ name value,
      Instr.declare name (ns.typeName ctx.settings.policy p.type) [] (some value) ∈ r.body := by
  cases written with
  | element tree => exact fun p member => by cases member
  | part inside explores edges filled =>
    intro p member
    obtain ⟨name, value, inside⟩ := writes_declare edges p member
    exact ⟨_, List.mem_cons_self, name, value, List.mem_append_right _ inside⟩
  | package explores edges filled =>
    intro p member
    obtain ⟨name, value, inside⟩ := writes_declare edges p member
    exact ⟨_, List.mem_cons_of_mem _ List.mem_cons_self, name, value,
      List.mem_append_left _ inside⟩

theorem Made.Put.declares {m : Made} {i : Instr} (put : m.Put typeName i) :
    ∀ d ∈ i.declarations, d.2 = m.type.signature typeName := by
  obtain ⟨name, again, rfl⟩ := put
  intro d member
  unfold putIn at member
  split at member
  · cases member
  · rw [List.mem_singleton.mp member]
    rfl

/-- The expression makes an object with its type in full or without the arguments of the type. -/
def Made.Told (typeName : TypeId → String) (m : Made) : Prop :=
  m.Fits typeName ∨ m.value.Gives ⟨typeName m.type, []⟩

theorem self_told (e : Element) (spec : ElementSpec) :
    Made.Told typeName ⟨e.type, madeExpr ctx typeName e spec⟩ := by
  unfold madeExpr
  cases spec.category with
  | opaqueNode => exact Or.inl rfl
  | regular => exact Or.inr rfl
  | leafText => exact Or.inr rfl
  | rawPayload => exact Or.inr rfl

theorem owned_told {e : Element} {r : ResolvedElement} :
    ∀ o ∈ ownedObjects ctx typeName e r, o.object.Told typeName := by
  intro o member
  rcases List.mem_append.mp member with value | bag
  · obtain ⟨p, _, made⟩ := List.mem_filterMap.mp value
    obtain ⟨raw, _, rfl⟩ := Option.map_eq_some_iff.mp made
    exact Or.inl rfl
  · obtain ⟨rules, _, rfl⟩ := Option.map_eq_some_iff.mp (Option.mem_toList.mp bag)
    exact Or.inr rfl

theorem objects_told (e : Element) : ∀ m ∈ objects ctx typeName e, m.Told typeName := by
  refine (forall_objects_iff (fun n spec _ => self_told n spec) (fun n r _ => ?_) e).mpr
    fun _ _ _ => trivial
  exact iff_true_intro ⟨owned_told, self_told n r.spec⟩

end

/-- A script declares the objects of its trees with the names of their types and the simple names of
the arguments. It makes the values of properties with these too, but it constructs elements and bags
of generic types with no arguments at all, and it declares parts without arguments. So it tells two
types of one name in one namespace apart if and only if the simple names of their arguments
differ. -/
theorem Target.script_generics_apart_iff {ctx : Context} {cancelled : Bool} {target : Target}
    {s : Script} (plain : ctx.handlers = .none) (ran : targetScript ctx cancelled target = .ok s) :
    ∃ (ns : Namespaces) (ps : List Part),
      let typeName := ns.typeName ctx.settings.policy
      target.Written ctx ns ps s.routines ∧ s.imports = ns.imports ctx.settings.policy ∧
      (∀ e ∈ target.trees ps, ∃ r ∈ s.routines, r.Rebuilds ctx typeName e) ∧
      (∀ (m : Made) i, m.Put typeName i → ∀ d ∈ i.declarations, d.2 = m.type.signature typeName) ∧
      (∀ e ∈ target.trees ps, ∀ m ∈ objects ctx typeName e, m.Told typeName) ∧
      (∀ p ∈ target.created ps, ∃ r ∈ s.routines, ∃ name value,
        Instr.declare name (typeName p.type) [] (some value) ∈ r.body) ∧
      ∀ t u : TypeId, t.space = u.space → t.name = u.name →
        (t.signature typeName = u.signature typeName ↔
          t.args.map (·.name) = u.args.map (·.name)) := by
  obtain ⟨ns, ps, written, -, imports⟩ := script_written plain ran
  refine ⟨ns, ps, written, imports, written.rebuilds, fun m i put => put.declares,
    fun e _ => objects_told e, written.creates, fun t u spaces names => ?_⟩
  exact TypeId.signature_eq_iff (Namespaces.typeName_congr _ ns spaces names)

/-- A type of elements with two properties, whose values are lists of things of one name. -/
def desks : Registry :=
  let type : TypeId := .plain "N" "A"
  let first : TypeId := ⟨"G", "List", [.plain "A" "X"]⟩
  let second : TypeId := ⟨"G", "List", [.plain "B" "X"]⟩
  ⟨.ofList [(type, ⟨⟨type, .regular, none, [⟨"p", .complex first none⟩, ⟨"q", .complex second none⟩],
      ""⟩, [], [("p", first), ("q", second)], []⟩)], .empty, .empty, .empty,
    [type, first, second, .plain "A" "X", .plain "B" "X"], Schema.standardRawKind, .standard⟩

def deskContext : Context := ⟨.standard, desks, .none⟩

def desk : Element :=
  { Element.ofType (.plain "N" "A") with properties := .ofList [("p", .str "x"), ("q", .str "y")] }

set_option maxRecDepth 8192 in
/-- Two lists of different types are declared alike, under the names that the script imports. -/
theorem Target.desk_lists_alike :
    deskContext.handlers = .none ∧
    ∃ s, targetScript deskContext false (.element desk none) = .ok s ∧
      s.routines.flatMap (·.body.flatMap Instr.declarations) =
        [("listX", ⟨"List", ["X"]⟩), ("listX", ⟨"List", ["X"]⟩), ("a", ⟨"A", []⟩)] ∧
      ∃ (ns : Namespaces) (ps : List Part),
        (Target.element desk none).Written deskContext ns ps s.routines ∧
        s.imports = ns.imports .short ∧
        TypeId.signature (ns.typeName .short) ⟨"G", "List", [.plain "A" "X"]⟩ =
          TypeId.signature (ns.typeName .short) ⟨"G", "List", [.plain "B" "X"]⟩ := by
  have plain : deskContext.handlers = .none := rfl
  have ends : (targetScript deskContext false (.element desk none)).map
      (·.routines.flatMap (·.body.flatMap Instr.declarations)) =
      .ok [("listX", ⟨"List", ["X"]⟩), ("listX", ⟨"List", ["X"]⟩), ("a", ⟨"A", []⟩)] := by
    cbv
  obtain ⟨s, ran, declared⟩ := except_map_ok ends
  obtain ⟨ns, ps, written, imports, -, -, -, -, alike⟩ :=
    Target.script_generics_apart_iff plain ran
  exact ⟨plain, s, ran, declared, ns, ps, written, imports, (alike _ _ rfl rfl).mpr rfl⟩

end DocScript
