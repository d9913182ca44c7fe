import DocScript.Proofs.Graph.Scope

/-!
# Calls of the routines that fill parts

A pass over a graph calls one routine for each blueprint that it makes, in the same order. The
routine of a part that is created is named like the variable of the part.
-/

namespace DocScript

/-- The variable and the routine of a call that fills the part in the variable. -/
def Instr.fills? : Instr → Option (String × String)
  | .invoke ⟨none, routine, _, [.byRef name]⟩ => some (name, routine)
  | _ => none

def Routine.fillCalls (r : Routine) : List (String × String) := r.walk.filterMap Instr.fills?

/-- What the call for a part says. -/
def Blueprint.call (b : Blueprint) : String × String := (b.name, b.routine)

open Compile

variable {ctx : Context} {graph : Graph} {w w' : PartWork} {parent owner : String}
  {parentType : TypeId} {is js : List Instr}

theorem Instr.Relates.fills? {i : Instr} (h : i.Relates owner) : i.fills? = none := by
  cases h <;> rfl

theorem filterMap_fills?_of_relates (relate : ∀ i ∈ is, i.Relates owner) :
    is.filterMap Instr.fills? = [] :=
  List.filterMap_eq_nil_iff.mpr fun i member => (relate i member).fills?

theorem Compile.Creates.fills? {name id : String} (h : Creates parent name id is) :
    is.filterMap Instr.fills? = [] := by
  cases h <;> rfl

/-- Some instructions call the routines of the blueprints that were made on the way. -/
structure PartWork.Calls (w : PartWork) (is : List Instr) (w' : PartWork) (new : List Blueprint) :
    Prop where
  grows : w.shared.namespaces ≤ w'.shared.namespaces
  entered : w'.blueprints.values = w.blueprints.values ++ new
  calls : is.filterMap Instr.fills? = new.map Blueprint.call
  named : ∀ b ∈ new, b.routine = fillName b.name

namespace PartWork.Calls

variable {new more : List Blueprint} {w'' : PartWork}

theorem none (silent : is.filterMap Instr.fills? = []) : w.Calls is w [] :=
  ⟨Namespaces.le_refl _, (List.append_nil _).symm, silent, nofun⟩

theorem append (h : w.Calls is w' new) (h' : w'.Calls js w'' more) :
    w.Calls (is ++ js) w'' (new ++ more) where
  grows := Namespaces.le_trans h.grows h'.grows
  entered := by rw [h'.entered, h.entered, List.append_assoc]
  calls := by rw [List.filterMap_append, h.calls, h'.calls, List.map_append]
  named := by
    intro b member
    rcases List.mem_append.mp member with early | late
    · exact h.named b early
    · exact h'.named b late

end PartWork.Calls

theorem PartWork.Enters.values {b : Blueprint} (h : w.Enters b w') :
    w'.blueprints.values = w.blueprints.values ++ [b] := by
  have entries := OrderedMap.entries_insert_of_not_mem b (OrderedMap.get?_eq_none.mp h.fresh)
  rw [← h.blueprints] at entries
  simp [OrderedMap.values, entries]

namespace Compile

theorem newPart_calls {e : Edge} {part : Part} {block : List Instr} {name : String}
    (made : newPart ctx parent parentType e part w = (.ok (block, name), w')) :
    w.Calls block w' [⟨part, name, fillName name⟩] := by
  obtain ⟨entered, ⟨creation, relations, rfl, creates, relate⟩, _⟩ := newPart_ok made
  refine ⟨entered.grows, entered.values, ?_, fun b member => ?_⟩
  · have related := filterMap_fills?_of_relates relate
    rw [List.append_assoc, List.filterMap_append, creates.fills?, List.cons_append,
      List.filterMap_cons, List.filterMap_append, related]
    rfl
  · rw [List.mem_singleton.mp member]

/-- What the edges of a container call is what is entered on the walk along them. -/
theorem edges_call (plain : ctx.handlers = .none) {fuel : Nat} {es : List Edge}
    (ran : Step.collect (edge ctx graph fuel parent parentType) es w = (.ok is, w')) :
    ∃ new, w.Calls is w' new := by
  refine edges_induction (motive := fun w is w' => ∃ new, w.Calls is w' new) plain
    (fun _ => ⟨[], .none rfl⟩) ?_ (fun _ _ _ _ => ⟨[], .none rfl⟩)
    (fun _ made => ⟨_, newPart_calls made⟩) ran
  rintro u v w is js ⟨new, first⟩ ⟨more, others⟩
  exact ⟨_, first.append others⟩

theorem links_call {hyperlinks : List Hyperlink} {externals : List ExternalLink}
    (h : links ctx owner hyperlinks externals w = (.ok is, w')) : w.Calls is w' [] := by
  obtain ⟨frame, relate⟩ := links_ok h
  refine ⟨frame.grows, ?_, filterMap_fills?_of_relates relate, nofun⟩
  rw [frame.blueprints, List.append_nil]

/-- The entry routine for a part calls the routine of every part that it visits. -/
theorem partEntry_calls (plain : ctx.handlers = .none) {part : Part} {shared : Shared} {r : Routine}
    {w : PartWork} (ran : partEntry ctx graph part (.start shared) = (.ok r, w)) :
    r.name = "Create" ++ part.type.name ∧ ∃ routine new,
      w.blueprints.values = ⟨part, partName, routine⟩ :: new ∧
      r.body.filterMap Instr.fills? = w.blueprints.values.map Blueprint.call ∧
      (∀ b ∈ new, b.routine = fillName b.name) ∧
      ∀ ns, w.shared.namespaces ≤ ns →
        routine = fillName (Variable.partName ⟨part.type, 0⟩ ns) := by
  obtain ⟨name, w₁, w₂, w₃, w₄, relations, below, registered, numbered, entered, related, walked, rfl⟩ :=
    partEntry_run ran
  obtain ⟨frame₁, known⟩ := Visit.register_ok registered
  obtain ⟨frame₄, relate⟩ := links_ok related
  have values := (Visit.enters frame₁ numbered entered frame₄).values
  obtain ⟨new, later⟩ := edges_call plain walked
  have all : w.blueprints.values = ⟨part, partName, fillName name⟩ :: new := by
    rw [later.entered, values]
    rfl
  refine ⟨rfl, fillName name, new, all, ?_, later.named, fun ns le => ?_⟩
  · have gap : (if part.children.isEmpty then [] else [Instr.blank]).filterMap Instr.fills? = [] := by
      split <;> rfl
    rw [all, List.cons_append, List.filterMap_append, List.filterMap_cons, List.filterMap_append,
      filterMap_fills?_of_relates relate, gap, later.calls]
    rfl
  · obtain ⟨shared₂, _, naming⟩ := Visit.nextName_ok numbered
    obtain ⟨_, rfl⟩ := Visit.enter_ok entered
    have grown := frame₄.grows
    rw [shared₂] at grown
    have spaces := Namespaces.le_trans (Namespaces.le_trans grown later.grows) le
    rw [(naming [] (frame₁.tally ▸ Tally.counts_empty)).2]
    exact congrArg fillName (Variable.partName_of_le spaces known).symm

theorem packageEntries_call (plain : ctx.handlers = .none) {package : Package} {shared : Shared}
    {r r' : Routine} {w : PartWork}
    (ran : packageEntries ctx graph package (.start shared) = (.ok (r, r'), w)) :
    r.name = "CreatePackage" ∧ r.fillCalls = [] ∧ r'.name = createParts ∧
      r'.body.filterMap Instr.fills? = w.blueprints.values.map Blueprint.call ∧
      ∀ b ∈ w.blueprints.values, b.routine = fillName b.name := by
  obtain ⟨w₁, w₂, w₃, below, relations, added, registered, walked, related, rfl, rfl⟩ :=
    packageEntries_run ran
  have start := (Visit.addPlain_ok added).trans (Visit.register_ok registered).1
  obtain ⟨new, made⟩ := edges_call plain walked
  have all := made.append (links_call related)
  have values : w.blueprints.values = new := by
    rw [all.entered, start.blueprints, List.append_nil]
    rfl
  refine ⟨rfl, rfl, rfl, ?_, ?_⟩
  · rw [values, all.calls, List.append_nil]
  · rw [values]
    exact made.named

end Compile

end DocScript
