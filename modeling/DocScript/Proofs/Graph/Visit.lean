import DocScript.Proofs.Graph.Links
import DocScript.Proofs.Naming.Tally

/-!
# Visits

What one step of the work on parts does: the creation of a part, and the walk along one edge.
Every way to fail is listed with its reason.
-/

namespace DocScript

variable {ctx : Context} {w w' : PartWork} {failure : Failure}

structure PartWork.Registers (w w' : PartWork) : Prop where
  tally : w'.tally = w.tally
  blueprints : w'.blueprints = w.blueprints
  cancelled : w'.shared.cancelled = w.shared.cancelled
  grows : w.shared.namespaces ≤ w'.shared.namespaces

theorem PartWork.Registers.trans {w'' : PartWork} (h : w.Registers w') (h' : w'.Registers w'') :
    w.Registers w'' :=
  ⟨h'.tally.trans h.tally, h'.blueprints.trans h.blueprints, h'.cancelled.trans h.cancelled,
    Namespaces.le_trans h.grows h'.grows⟩

/-- A part got a blueprint. It had none before, and the tally has counted its type. -/
structure PartWork.Enters (b : Blueprint) (w w' : PartWork) : Prop where
  fresh : w.blueprints.get? b.part.uri = none
  blueprints : w'.blueprints = w.blueprints.insert b.part.uri b
  counts : ∀ earlier, w.tally.Counts earlier → w'.tally.Counts (earlier ++ [b.part.type])
  cancelled : w'.shared.cancelled = w.shared.cancelled
  grows : w.shared.namespaces ≤ w'.shared.namespaces

namespace Visit

theorem onNamespaces_eq {α : Type} (m : Step Namespaces α) (w : PartWork) :
    onNamespaces m w = ((m w.shared.namespaces).1,
      { w with shared := { w.shared with namespaces := (m w.shared.namespaces).2 } }) := rfl

theorem onNamespaces_ok {α : Type} {m : Step Namespaces α} {a : α}
    (h : onNamespaces m w = (.ok a, w')) :
    ∃ ns, m w.shared.namespaces = (.ok a, ns) ∧
      w' = { w with shared := { w.shared with namespaces := ns } } := by
  rw [onNamespaces_eq] at h
  obtain ⟨result, rfl⟩ := Prod.mk.inj h
  exact ⟨_, Prod.ext result rfl, rfl⟩

theorem onNamespaces_error {α : Type} {m : Step Namespaces α}
    (h : onNamespaces m w = (.error failure, w')) :
    ∃ ns, m w.shared.namespaces = (.error failure, ns) := by
  rw [onNamespaces_eq] at h
  exact ⟨_, Prod.ext (Prod.mk.inj h).1 rfl⟩

theorem register_ok {t : TypeId} {u : Unit} (h : register ctx t w = (.ok u, w')) :
    w.Registers w' ∧ w'.shared.namespaces.contains t.space = true := by
  obtain ⟨ns, changed, rfl⟩ := onNamespaces_ok h
  obtain ⟨_, rfl⟩ := Prod.mk.inj changed
  exact ⟨⟨rfl, rfl, rfl, Namespaces.le_register _ _ _⟩, Namespaces.contains_register _ _ _⟩

theorem addPlain_ok {space : String} {u : Unit} (h : addPlain space w = (.ok u, w')) :
    w.Registers w' := by
  obtain ⟨ns, changed, rfl⟩ := onNamespaces_ok h
  obtain ⟨_, rfl⟩ := Prod.mk.inj changed
  exact ⟨rfl, rfl, rfl, Namespaces.le_addPlain _ _⟩

theorem typeName_ok {t : TypeId} {name : String} (h : typeName ctx t w = (.ok name, w')) :
    w' = w := (Prod.mk.inj h).2.symm

theorem checkCancelled_ok {u : Unit} (h : checkCancelled w = (.ok u, w')) :
    w.shared.cancelled = false ∧ w' = w := by
  unfold checkCancelled at h
  split at h
  · cases (Prod.mk.inj h).1
  · next running => exact ⟨Bool.eq_false_iff.mpr running, (Prod.mk.inj h).2.symm⟩

theorem checkCancelled_error (h : checkCancelled w = (.error failure, w')) :
    w.shared.cancelled = true := by
  unfold checkCancelled at h
  split at h
  · assumption
  · cases (Prod.mk.inj h).1

/-- The next variable for a part of a type is named by its number. -/
theorem nextName_ok {t : TypeId} {name : String} (h : nextName t w = (.ok name, w')) :
    w'.shared = w.shared ∧ w'.blueprints = w.blueprints ∧
      ∀ earlier, w.tally.Counts earlier → w'.tally.Counts (earlier ++ [t]) ∧
        name = Variable.partName ⟨t, Variable.count earlier t.fullName⟩ w.shared.namespaces := by
  obtain ⟨value, rfl⟩ := Prod.mk.inj h
  obtain rfl := Except.ok.inj value
  refine ⟨rfl, rfl, fun earlier counts => ?_⟩
  obtain ⟨named, counted⟩ := counts.next
    (Text.camelCase (Text.lower (w.shared.namespaces.aliasOf t.space) ++ t.name)) t
  exact ⟨counted, named⟩

theorem enter_ok {b : Blueprint} {u : Unit} (h : enter b w = (.ok u, w')) :
    w.blueprints.get? b.part.uri = none ∧
      w' = { w with blueprints := w.blueprints.insert b.part.uri b } := by
  unfold enter at h
  split at h
  · cases (Prod.mk.inj h).1
  · next unknown =>
    exact ⟨by simpa [OrderedMap.contains] using unknown, (Prod.mk.inj h).2.symm⟩

/-- A part whose variable was numbered gets its blueprint, whatever is registered before and after. -/
theorem enters {b : Blueprint} {name : String} {u : Unit} {w₁ w₂ w₃ : PartWork}
    (before : w.Registers w₁) (named : nextName b.part.type w₁ = (.ok name, w₂))
    (entered : enter b w₂ = (.ok u, w₃)) (after : w₃.Registers w') : w.Enters b w' := by
  obtain ⟨shared, blueprints, naming⟩ := nextName_ok named
  obtain ⟨unknown, rfl⟩ := enter_ok entered
  refine ⟨?_, ?_, fun earlier counts => ?_, ?_, ?_⟩
  · rwa [blueprints, before.blueprints] at unknown
  · rw [after.blueprints, blueprints, before.blueprints]
  · rw [← before.tally] at counts
    rw [after.tally]
    exact (naming earlier counts).1
  · rw [after.cancelled, shared, before.cancelled]
  · have grown := after.grows
    rw [shared] at grown
    exact Namespaces.le_trans before.grows grown

theorem enter_error {b : Blueprint} (h : enter b w = (.error failure, w')) :
    w.blueprints.contains b.part.uri = true := by
  unfold enter at h
  split at h
  · assumption
  · cases (Prod.mk.inj h).1

end Visit

namespace Compile

variable {graph : Graph} {parent name owner : String} {parentType : TypeId} {e : Edge} {part : Part}
  {is : List Instr}

theorem links_ok {hyperlinks : List Hyperlink} {externals : List ExternalLink}
    (h : links ctx owner hyperlinks externals w = (.ok is, w')) :
    w.Registers w' ∧ ∀ i ∈ is, i.Relates owner := by
  obtain ⟨ns, made, rfl⟩ := Visit.onNamespaces_ok h
  obtain ⟨grown, relate⟩ := relationships_ok made
  exact ⟨⟨rfl, rfl, rfl, grown⟩, relate⟩

theorem links_error {hyperlinks : List Hyperlink} {externals : List ExternalLink}
    (h : links ctx owner hyperlinks externals w = (.error failure, w')) :
    ∃ fault, Unreadable hyperlinks externals fault ∧ failure = .address fault := by
  obtain ⟨ns, failed⟩ := Visit.onNamespaces_error h
  exact relationships_error failed

theorem links_readable {hyperlinks : List Hyperlink} {externals : List ExternalLink}
    (h : links ctx owner hyperlinks externals w = (.ok is, w')) : Readable hyperlinks externals := by
  obtain ⟨ns, made, _⟩ := Visit.onNamespaces_ok h
  exact relationships_readable made

/-- One call on the parent creates a part in a variable. It carries the identifier of the
relationship, unless the next instruction sets that. -/
inductive Creates (parent name id : String) : List Instr → Prop
  | labelled {typeName operation : String} {typeArgs : List String} (args : List Expr)
      (closed : Expr.mentionsAll args = []) :
      Creates parent name id [.declare name typeName []
        (some (.call (some (.var parent)) operation typeArgs (args ++ [.text id])))]
  | renamed {typeName operation : String} {args : List Expr} (closed : Expr.mentionsAll args = []) :
      Creates parent name id [
        .declare name typeName [] (some (.call (some (.var parent)) operation [] args)),
        .invokeOn (some (.var parent)) "ChangeIdOfPart" [.var name, .text id]]

theorem partCreation_ok
    (h : partCreation ctx parent parentType e part name w = (.ok is, w')) :
    w' = w ∧ Creates parent name e.id is := by
  obtain ⟨typeName, u, named, ran⟩ := Step.bind_ok h
  obtain rfl := Visit.typeName_ok named
  cases operation : addOperation? ctx.registry parentType part.type with
  | none =>
    simp only [operation] at ran
    obtain ⟨rfl, rfl⟩ := Step.pure_ok ran
    exact ⟨rfl, .labelled [] rfl⟩
  | some op =>
    have closed : Expr.mentionsAll
        (if op.takesContentType then [.text (part.contentType.getD "")] else []) = [] := by
      split <;> rfl
    simp only [operation] at ran
    obtain ⟨rfl, rfl⟩ := Step.pure_ok ran
    refine ⟨rfl, ?_⟩
    by_cases labelled : op.takesRelationshipId = true
    · rw [if_pos labelled, if_pos labelled]
      exact .labelled _ closed
    · rw [if_neg labelled, if_neg labelled, List.append_nil]
      exact .renamed closed

theorem partCreation_error
    (h : partCreation ctx parent parentType e part name w = (.error failure, w')) : False := by
  rcases Step.bind_error h with first | ⟨typeName, u, _, ran⟩
  · cases (Prod.mk.inj first).1
  · cases operation : addOperation? ctx.registry parentType part.type with
    | none =>
      simp only [operation] at ran
      exact Step.pure_not_error ran
    | some op =>
      simp only [operation] at ran
      exact Step.pure_not_error ran

/-- A part that is new is created, entered, filled and related, in this order. -/
theorem newPart_ok {block : List Instr}
    (h : newPart ctx parent parentType e part w = (.ok (block, name), w')) :
    w.Enters ⟨part, name, fillName name⟩ w' ∧
      (∃ creation relations,
        block = creation ++ fillCall name (fillName name) :: relations ++ [.blank] ∧
        Creates parent name e.id creation ∧ ∀ i ∈ relations, i.Relates name) ∧
      ∀ earlier, w.tally.Counts earlier → ∀ ns, w'.shared.namespaces ≤ ns →
        name = Variable.partName ⟨part.type, Variable.count earlier part.type.fullName⟩ ns := by
  obtain ⟨_, w₁, registered, h⟩ := Step.bind_ok h
  obtain ⟨next, w₂, named, h⟩ := Step.bind_ok h
  obtain ⟨creation, w₃, created, h⟩ := Step.bind_ok h
  obtain ⟨_, w₄, entered, h⟩ := Step.bind_ok h
  obtain ⟨relations, w₅, related, h⟩ := Step.bind_ok h
  obtain ⟨same, rfl⟩ := Step.pure_ok h
  obtain ⟨rfl, rfl⟩ := Prod.mk.inj same
  obtain ⟨frame₁, known⟩ := Visit.register_ok registered
  obtain ⟨rfl, creates⟩ := partCreation_ok created
  obtain ⟨frame₅, relate⟩ := links_ok related
  refine ⟨Visit.enters frame₁ named entered frame₅, ⟨creation, relations, rfl, creates, relate⟩,
    fun earlier counts ns le => ?_⟩
  obtain ⟨shared₂, _, naming⟩ := Visit.nextName_ok named
  obtain ⟨_, rfl⟩ := Visit.enter_ok entered
  have grown := frame₅.grows
  rw [shared₂] at grown
  rw [← frame₁.tally] at counts
  rw [(naming earlier counts).2]
  exact (Variable.partName_of_le (Namespaces.le_trans grown le) known).symm

/-- A new part fails only if it has been entered before or cannot be related. -/
theorem newPart_error (h : newPart ctx parent parentType e part w = (.error failure, w')) :
    w.blueprints.contains part.uri = true ∨
      ∃ fault, Unreadable part.hyperlinks part.externals fault ∧ failure = .address fault := by
  rcases Step.bind_error h with first | ⟨_, w₁, registered, h⟩
  · obtain ⟨_, failed⟩ := Visit.onNamespaces_error first
    cases (Prod.mk.inj failed).1
  · have frame₁ := (Visit.register_ok registered).1
    rcases Step.bind_error h with first | ⟨next, w₂, named, h⟩
    · cases (Prod.mk.inj first).1
    · obtain ⟨_, rfl⟩ := Prod.mk.inj named
      rcases Step.bind_error h with first | ⟨creation, w₃, created, h⟩
      · exact (partCreation_error first).elim
      · obtain ⟨rfl, _⟩ := partCreation_ok created
        rcases Step.bind_error h with first | ⟨_, w₄, _, h⟩
        · have known := Visit.enter_error first
          exact Or.inl (frame₁.blueprints ▸ known)
        · rcases Step.bind_error h with first | ⟨relations, w₅, _, h⟩
          · exact Or.inr (links_error first)
          · exact (Step.pure_not_error h).elim

theorem handledEdge_eq (plain : ctx.handlers = .none) (parent : String) (e : Edge) (part : Part) :
    handledEdge ctx parent e part = pure none := by
  rw [handledEdge, plain]
  rfl

/-- One edge attaches what is known, and creates what is new before its edges are followed. -/
theorem edge_ok (plain : ctx.handlers = .none) {fuel : Nat}
    (h : edge ctx graph (fuel + 1) parent parentType e w = (.ok is, w')) :
    ∃ part, graph.get? e.target = some part ∧
      ((∃ b, w.blueprints.get? part.uri = some b ∧ w' = w ∧
          is = [.invokeOn (some (.var parent)) "AddPart" [.var b.name, .text e.id]]) ∨
        ∃ block name w₁ below, newPart ctx parent parentType e part w = (.ok (block, name), w₁) ∧
          Step.collect (edge ctx graph fuel name part.type) part.children w₁ = (.ok below, w') ∧
          is = block ++ below) := by
  rw [edge] at h
  obtain ⟨_, u, checked, ran⟩ := Step.bind_ok h
  obtain ⟨_, rfl⟩ := Visit.checkCancelled_ok checked
  cases found : graph.get? e.target with
  | none =>
    simp only [found] at ran
    exact (Step.fail_ok ran).elim
  | some part =>
    simp only [found, handledEdge_eq plain, Step.pure_then] at ran
    refine ⟨part, rfl, ?_⟩
    obtain ⟨entry, v, read, rest⟩ := Step.bind_ok ran
    obtain ⟨value, rfl⟩ := Prod.mk.inj read
    obtain rfl := Except.ok.inj value
    cases known : u.blueprints.get? part.uri with
    | some b =>
      simp only [known] at rest
      obtain ⟨rfl, rfl⟩ := Step.pure_ok rest
      exact Or.inl ⟨b, rfl, rfl, rfl⟩
    | none =>
      simp only [known] at rest
      obtain ⟨⟨block, name⟩, w₁, made, more⟩ := Step.bind_ok rest
      obtain ⟨below, w₂, ran, last⟩ := Step.bind_ok more
      obtain ⟨rfl, rfl⟩ := Step.pure_ok last
      exact Or.inr ⟨block, name, w₁, below, made, ran, rfl⟩

/-- What holds of attachments and of new parts, and of nothing and of one thing after another, holds
of every run over some edges that ends well. -/
theorem edges_induction (plain : ctx.handlers = .none)
    {motive : PartWork → List Instr → PartWork → Prop} (nothing : ∀ w, motive w [] w)
    (append : ∀ {u v w is js}, motive u is v → motive v js w → motive u (is ++ js) w)
    (attached : ∀ w parent name id,
      motive w [.invokeOn (some (.var parent)) "AddPart" [.var name, .text id]] w)
    (created : ∀ {parent parentType e part u block name v}, graph.get? e.target = some part →
      newPart ctx parent parentType e part u = (.ok (block, name), v) → motive u block v)
    {fuel : Nat} {es : List Edge}
    (ran : Step.collect (edge ctx graph fuel parent parentType) es w = (.ok is, w')) :
    motive w is w' := by
  -- The outer induction goes down into new parts, the inner one along the edges of one part.
  induction fuel generalizing parent parentType es w is w' with
  | zero =>
    induction es generalizing w is with
    | nil =>
      obtain ⟨rfl, rfl⟩ := Step.pure_ok ran
      exact nothing _
    | cons e rest ih =>
      obtain ⟨_, u, more, first, others, rfl⟩ := Step.collect_cons_ok ran
      rw [edge] at first
      obtain ⟨rfl, rfl⟩ := Step.pure_ok first
      exact ih others
  | succ fuel deeper =>
    induction es generalizing w is with
    | nil =>
      obtain ⟨rfl, rfl⟩ := Step.pure_ok ran
      exact nothing _
    | cons e rest ih =>
      obtain ⟨_, u, more, first, others, rfl⟩ := Step.collect_cons_ok ran
      refine append ?_ (ih others)
      obtain ⟨part, found, ⟨b, _, rfl, rfl⟩ | ⟨block, name, w₁, below, made, inner, rfl⟩⟩ :=
        edge_ok plain first
      · exact attached _ _ _ _
      · exact append (created found made) (deeper inner)

/-- One edge fails at once if the run was cancelled or its target is not in the graph. Else its
target is new, and fails or has an edge that fails. -/
theorem edge_error (plain : ctx.handlers = .none) {fuel : Nat}
    (h : edge ctx graph (fuel + 1) parent parentType e w = (.error failure, w')) :
    w.shared.cancelled = true ∨
    (graph.get? e.target = none ∧ failure = .unmet (.edgeTarget e.id e.target)) ∨
    ∃ part, graph.get? e.target = some part ∧ w.blueprints.get? part.uri = none ∧
      (newPart ctx parent parentType e part w = (.error failure, w') ∨
        ∃ block name w₁, newPart ctx parent parentType e part w = (.ok (block, name), w₁) ∧
          Step.collect (edge ctx graph fuel name part.type) part.children w₁ =
            (.error failure, w')) := by
  rw [edge] at h
  rcases Step.bind_error h with first | ⟨_, u, checked, ran⟩
  · exact Or.inl (Visit.checkCancelled_error first)
  · obtain ⟨_, rfl⟩ := Visit.checkCancelled_ok checked
    refine Or.inr ?_
    cases found : graph.get? e.target with
    | none =>
      simp only [found] at ran
      exact Or.inl ⟨rfl, (Step.fail_error ran).1⟩
    | some part =>
      simp only [found, handledEdge_eq plain, Step.pure_then] at ran
      refine Or.inr ⟨part, rfl, ?_⟩
      rcases Step.bind_error ran with first | ⟨entry, v, read, rest⟩
      · cases (Prod.mk.inj first).1
      · obtain ⟨value, rfl⟩ := Prod.mk.inj read
        obtain rfl := Except.ok.inj value
        cases known : u.blueprints.get? part.uri with
        | some b =>
          simp only [known] at rest
          exact (Step.pure_not_error rest).elim
        | none =>
          simp only [known] at rest
          refine ⟨rfl, ?_⟩
          rcases Step.bind_error rest with first | ⟨⟨block, name⟩, w₁, made, more⟩
          · exact Or.inl first
          · rcases Step.bind_error more with first | ⟨below, w₂, _, last⟩
            · exact Or.inr ⟨block, name, w₁, made, first⟩
            · exact (Step.pure_not_error last).elim

end Compile

end DocScript
