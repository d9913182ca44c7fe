import DocScript.Proofs.Graph.Walk
import DocScript.Proofs.Script.Links

/-!
# Entry passes

The routine that creates what hangs on a part or a package makes one link for each edge that can be
reached, in depth-first order, and gives every part a blueprint when it is first reached. It fails only
at such an edge that leads out of the graph or to an address that cannot be read.
-/

namespace DocScript

open Instr Walked

/-- The link that an edge stands for, with the variables of its ends. -/
def Walked.link (holder : Option String → String) (v : Walked) : Link :=
  ⟨v.first, holder v.owner, holder (some v.part.uri), some v.edge.id⟩

/-- An instruction that makes no link and mentions nothing but what one variable holds. -/
structure Instr.Aside (holder : String) (i : Instr) : Prop where
  links : ∀ next, i.link? next = none
  declares : i.declares = []
  walk : i.walk = [i]
  reads : ∀ x ∈ i.reads, x = holder

theorem Instr.Relates.aside {holder : String} {i : Instr} (h : i.Relates holder) : i.Aside holder := by
  refine ⟨fun next => ?_, h.declares, h.walk, h.reads⟩
  cases h with
  | blank => rfl
  | adds known _ =>
    simp only [List.mem_cons, List.not_mem_nil, or_false] at known
    rcases known with rfl | rfl <;> rfl

theorem Compile.fillCall_aside (holder routine : String) : (fillCall holder routine).Aside holder where
  links _ := rfl
  declares := rfl
  walk := rfl
  reads := by simp [fillCall, invokeOn, Instr.reads, Expr.mentionsTarget, Expr.mentionsAll, Expr.mentions]

/-- What follows the creation of a part mentions nothing else. -/
theorem Compile.filled_aside {holder : String} {relations : List Instr}
    (relate : ∀ i ∈ relations, i.Relates holder) (routine : String) :
    ∀ i ∈ fillCall holder routine :: relations ++ [.blank], i.Aside holder := by
  intro i member
  rw [List.cons_append, List.mem_cons, List.mem_append, List.mem_singleton] at member
  rcases member with rfl | related | rfl
  · exact fillCall_aside _ _
  · exact (relate i related).aside
  · exact Instr.Relates.blank.aside

section

variable {holder : Option String → String} {v : Walked} {walk : List Walked} {is : List Instr}

/-- The instructions for an edge make its link, and no other. -/
theorem Records.linksIn (h : Records holder v is) (rest : List Instr) :
    linksIn (is ++ rest) = v.link holder :: linksIn rest := by
  cases h with
  | attached => rfl
  | @created owner e p creation relations routine creates relate =>
    have after := linksIn_append (fun i member => (Compile.filled_aside relate routine i member).links) rest
    cases creates with
    | labelled _ closed =>
      simp only [List.cons_append, List.nil_append, List.append_assoc] at after ⊢
      rw [linksIn_cons, after]
      simp [link?, relabels?, Compile.fillCall, invokeOn, lastText?_append, Walked.link]
    | renamed closed =>
      simp only [List.cons_append, List.nil_append, List.append_assoc] at after ⊢
      rw [linksIn_cons, linksIn_cons, after]
      simp [link?, relabels?, invokeOn, Expr.text, Walked.link]

theorem RecordsAll.linksIn (h : RecordsAll holder walk is) (rest : List Instr) :
    linksIn (is ++ rest) = walk.map (Walked.link holder) ++ linksIn rest := by
  induction h with
  | nil => rfl
  | cons first _ ih => rw [List.append_assoc, first.linksIn, ih, List.map_cons, List.cons_append]

end

/-- What the run for an entry routine comes to, if it ends well. Some parts are known at the start;
the edges at the start belong to the container in a variable. -/
structure Pass (graph : Graph) (known : List Part) (owner : Option String) (holder : String)
    (es : List Edge) (body : List Instr) (walk : List Walked) (w : PartWork) : Prop where
  explores : Explores graph (known.map (·.uri)) owner es walk w.blueprints.keys
  sound : w.Sound graph
  held : holderIn w.blueprints owner = holder
  parts : w.parts = known ++ found walk
  names : ∀ ns, w.shared.namespaces ≤ ns →
    (found walk).map (fun p => holderIn w.blueprints (some p.uri)) =
      (Variable.numbered (known.map (·.type)) ((found walk).map (·.type))).map (·.partName ns)
  body : ∃ front below back, body = front ++ below ++ back ∧
    RecordsAll (holderIn w.blueprints) walk below ∧ (∀ i ∈ front, i.Aside holder) ∧
    ∀ i ∈ back, i.Aside holder

section

variable {graph : Graph} {known : List Part} {owner : Option String} {holder : String}
  {es : List Edge} {body : List Instr} {walk : List Walked} {w : PartWork}

theorem Pass.linksIn (h : Pass graph known owner holder es body walk w) :
    linksIn body = walk.map (Walked.link (holderIn w.blueprints)) := by
  obtain ⟨front, below, back, rfl, records, before, after⟩ := h.body
  have last := linksIn_append (fun i member => (after i member).links) []
  rw [List.append_nil] at last
  rw [List.append_assoc, linksIn_append fun i member => (before i member).links, records.linksIn, last]
  exact List.append_nil _

/-- A pass visits the parts at its start and those that can be reached from there. -/
theorem Pass.mem_parts (h : Pass graph known owner holder es body walk w)
    (start : Explores.Starts graph (known.map (·.uri)) owner es) {p : Part} :
    p ∈ w.parts ↔ p ∈ known ∨ ∃ e, graph.Leads es e ∧ graph.get? e.target = some p := by
  constructor
  · intro visited
    rw [h.parts, List.mem_append] at visited
    rcases visited with old | new
    · exact Or.inl old
    · obtain ⟨v, walked, _, rfl⟩ := mem_found.mp new
      exact Or.inr ⟨v.edge, h.explores.leads walked, (h.explores.target walked).1⟩
  · rintro (old | ⟨e, leads, target⟩)
    · rw [h.parts]
      exact List.mem_append_left _ old
    · obtain ⟨v, walked, rfl⟩ := h.explores.walked start leads
      obtain ⟨target', reached⟩ := h.explores.target walked
      obtain rfl := Option.some.inj (target.symm.trans target')
      obtain ⟨b, found⟩ := OrderedMap.contains_iff.mp (OrderedMap.contains_iff_mem_keys.mpr reached)
      have same := (h.sound.keyed _ b found).symm.trans (Graph.get?_uri target)
      rw [← Option.some.inj same]
      exact List.mem_map.mpr ⟨b, OrderedMap.mem_values_iff.mpr ⟨_, found⟩, rfl⟩

end

namespace Compile

variable {ctx : Context} {graph : Graph} {part : Part} {package : Package} {shared : Shared}
  {w w' : PartWork} {failure : Failure}

theorem sound_start (graph : Graph) (shared : Shared) : (PartWork.start shared).Sound graph :=
  ⟨nofun, Tally.counts_empty⟩

/-- A pass from a part that ends well, step by step. -/
theorem partEntry_run {r : Routine} (ran : partEntry ctx graph part (.start shared) = (.ok r, w)) :
    ∃ name w₁ w₂ w₃ w₄ relations below,
      Visit.register ctx part.type (.start shared) = (.ok (), w₁) ∧
      Visit.nextName part.type w₁ = (.ok name, w₂) ∧
      Visit.enter ⟨part, partName, fillName name⟩ w₂ = (.ok (), w₃) ∧
      links ctx partName part.hyperlinks part.externals w₃ = (.ok relations, w₄) ∧
      edges ctx graph partName part.type part.children w₄ = (.ok below, w) ∧
      r = ⟨"Create" ++ part.type.name,
        [⟨partName, w.shared.namespaces.typeName ctx.settings.policy part.type, false⟩],
        fillCall partName (fillName name) :: relations
          ++ (if part.children.isEmpty then [] else [Instr.blank]) ++ below, none, none, true⟩ := by
  obtain ⟨_, w₀, checked, ran⟩ := Step.bind_ok ran
  obtain ⟨_, rfl⟩ := Visit.checkCancelled_ok checked
  obtain ⟨_, w₁, registered, ran⟩ := Step.bind_ok ran
  obtain ⟨name, w₂, named, ran⟩ := Step.bind_ok ran
  obtain ⟨_, w₃, entered, ran⟩ := Step.bind_ok ran
  obtain ⟨relations, w₄, related, ran⟩ := Step.bind_ok ran
  obtain ⟨below, w₅, walked, ran⟩ := Step.bind_ok ran
  obtain ⟨typeName, w₆, typed, ran⟩ := Step.bind_ok ran
  obtain ⟨rfl, rfl⟩ := Step.pure_ok ran
  obtain ⟨text, rfl⟩ := Prod.mk.inj typed
  obtain rfl := Except.ok.inj text
  exact ⟨name, w₁, w₂, w₃, w₄, relations, below, registered, named, entered, related, walked, rfl⟩

/-- A pass from a package that ends well, step by step. -/
theorem packageEntries_run {r r' : Routine}
    (ran : packageEntries ctx graph package (.start shared) = (.ok (r, r'), w)) :
    ∃ w₁ w₂ w₃ below relations,
      Visit.addPlain streamType.space (.start shared) = (.ok (), w₁) ∧
      Visit.register ctx package.type w₁ = (.ok (), w₂) ∧
      edges ctx graph packageName package.type package.children w₂ = (.ok below, w₃) ∧
      links ctx packageName package.hyperlinks package.externals w₃ = (.ok relations, w) ∧
      r = packageEntry (w₂.shared.namespaces.typeName ctx.settings.policy package.type)
        (w₂.shared.namespaces.typeName ctx.settings.policy streamType)
        (((ctx.registry.package? package.type).map (·.create)).getD PackageSpec.defaultCreate) ∧
      r' = ⟨createParts,
        [⟨packageName, w₂.shared.namespaces.typeName ctx.settings.policy package.type, false⟩],
        below ++ relations, none, none, false⟩ := by
  obtain ⟨_, w₀, checked, ran⟩ := Step.bind_ok ran
  obtain ⟨_, rfl⟩ := Visit.checkCancelled_ok checked
  obtain ⟨_, w₁, added, ran⟩ := Step.bind_ok ran
  obtain ⟨_, w₂, registered, ran⟩ := Step.bind_ok ran
  obtain ⟨typeName, w₃, typed, ran⟩ := Step.bind_ok ran
  obtain ⟨streamTypeName, w₄, streamed, ran⟩ := Step.bind_ok ran
  obtain ⟨below, w₅, walked, ran⟩ := Step.bind_ok ran
  obtain ⟨relations, w₆, related, ran⟩ := Step.bind_ok ran
  obtain ⟨same, rfl⟩ := Step.pure_ok ran
  obtain ⟨rfl, rfl⟩ := Prod.mk.inj same
  obtain ⟨text, rfl⟩ := Prod.mk.inj typed
  obtain rfl := Except.ok.inj text
  obtain ⟨stream, rfl⟩ := Prod.mk.inj streamed
  obtain rfl := Except.ok.inj stream
  exact ⟨w₁, w₂, w₅, below, relations, added, registered, walked, related, rfl, rfl⟩

/-- The pass from a part, which is known at the start. -/
theorem partEntry_ok (plain : ctx.handlers = .none) (inside : graph.get? part.uri = some part)
    {r : Routine} (ran : partEntry ctx graph part (.start shared) = (.ok r, w)) :
    r.parameterNames = [partName] ∧ r.returns = none ∧ ∃ walk,
      Pass graph [part] (some part.uri) partName part.children r.body walk w := by
  obtain ⟨name, w₁, w₂, w₃, w₄, relations, below, registered, named, entered, related, walked, rfl⟩ :=
    partEntry_run ran
  obtain ⟨frame₄, relate⟩ := links_ok related
  have enters := Visit.enters (Visit.register_ok registered).1 named entered frame₄
  obtain ⟨parts, keys⟩ := enters.appended
  have sound := (sound_start graph shared).enters enters inside
  obtain ⟨walk, left⟩ := edges_ok (some part.uri) plain sound
    (by unfold depthBound; omega) walked
  have held : holderIn w.blueprints (some part.uri) = partName :=
    holderIn_of_le left.grows enters.get?
  refine ⟨rfl, rfl, walk, ?_, left.sound, held, ?_, fun ns le => ?_, ?_⟩
  · have explores := left.explores
    rwa [keys] at explores
  · rw [left.parts, parts]
    rfl
  · have names := left.names w.blueprints (OrderedMap.le_refl _) ns le
    rwa [parts] at names
  · refine ⟨_, below, [], (List.append_nil _).symm, left.records _ (OrderedMap.le_refl _) held, ?_, nofun⟩
    intro i member
    rw [List.cons_append, List.mem_cons, List.mem_append] at member
    rcases member with rfl | related | gap
    · exact fillCall_aside _ _
    · exact (relate i related).aside
    · split at gap
      · cases gap
      · rw [List.mem_singleton.mp gap]
        exact Instr.Relates.blank.aside

theorem packageEntries_ok (plain : ctx.handlers = .none) {r r' : Routine}
    (ran : packageEntries ctx graph package (.start shared) = (.ok (r, r'), w)) :
    (∃ typeName streamTypeName create, r = packageEntry typeName streamTypeName create) ∧
      r'.parameterNames = [packageName] ∧ r'.returns = none ∧ ∃ walk,
        Pass graph [] none packageName package.children r'.body walk w := by
  obtain ⟨w₁, w₂, w₃, below, relations, added, registered, walked, related, rfl, rfl⟩ :=
    packageEntries_run ran
  obtain ⟨frame, relate⟩ := links_ok related
  have start := (Visit.addPlain_ok added).trans (Visit.register_ok registered).1
  obtain ⟨walk, left⟩ := edges_ok none plain ((sound_start graph shared).registers start)
    (by unfold depthBound; omega) walked
  refine ⟨⟨_, _, _, rfl⟩, rfl, rfl, walk, ?_, left.sound.registers frame, rfl, ?_, fun ns le => ?_, ?_⟩
  · have explores := left.explores
    rwa [start.blueprints, ← frame.blueprints] at explores
  · rw [frame.parts, left.parts, start.parts]
    rfl
  · have names := left.names w₃.blueprints (OrderedMap.le_refl _) ns
      (Namespaces.le_trans frame.grows le)
    rwa [start.parts, ← frame.blueprints] at names
  · refine ⟨[], below, relations, rfl, ?_, nofun, fun i member => (relate i member).aside⟩
    rw [frame.blueprints]
    exact left.records _ (OrderedMap.le_refl _) rfl

/-- The pass from a part fails at an edge that it cannot follow, or at an address of the part. -/
theorem partEntry_error (plain : ctx.handlers = .none) (inside : graph.get? part.uri = some part)
    (ran : partEntry ctx graph part (.start (.start false)) = (.error failure, w)) :
    (∃ e, graph.Leads part.children e ∧ graph.Stops e failure) ∨
      ∃ fault, Unreadable part.hyperlinks part.externals fault ∧ failure = .address fault := by
  rcases Step.bind_error ran with checked | ⟨_, w₀, checked, ran⟩
  · cases Visit.checkCancelled_error checked
  obtain ⟨_, rfl⟩ := Visit.checkCancelled_ok checked
  rcases Step.bind_error ran with registered | ⟨_, w₁, registered, ran⟩
  · obtain ⟨_, failed⟩ := Visit.onNamespaces_error registered
    cases (Prod.mk.inj failed).1
  rcases Step.bind_error ran with named | ⟨name, w₂, named, ran⟩
  · cases (Prod.mk.inj named).1
  rcases Step.bind_error ran with entered | ⟨_, w₃, entered, ran⟩
  · have known := Visit.enter_error entered
    rw [(Visit.nextName_ok named).2.1, (Visit.register_ok registered).1.blueprints] at known
    cases known
  rcases Step.bind_error ran with related | ⟨relations, w₄, related, ran⟩
  · exact Or.inr (links_error related)
  rcases Step.bind_error ran with walked | ⟨below, w₅, walked, ran⟩
  · have enters := Visit.enters (Visit.register_ok registered).1 named entered (links_ok related).1
    exact Or.inl (edges_error plain enters.cancelled ((sound_start graph _).enters enters inside)
      (by unfold depthBound; omega) walked)
  rcases Step.bind_error ran with typed | ⟨typeName, w₆, typed, ran⟩
  · cases (Prod.mk.inj typed).1
  · exact (Step.pure_not_error ran).elim

/-- The pass from a package fails at an edge that it cannot follow, or at an address of the
package. -/
theorem packageEntries_error (plain : ctx.handlers = .none)
    (ran : packageEntries ctx graph package (.start (.start false)) = (.error failure, w)) :
    (∃ e, graph.Leads package.children e ∧ graph.Stops e failure) ∨
      ∃ fault, Unreadable package.hyperlinks package.externals fault ∧
        failure = .address fault := by
  rcases Step.bind_error ran with checked | ⟨_, w₀, checked, ran⟩
  · cases Visit.checkCancelled_error checked
  obtain ⟨_, rfl⟩ := Visit.checkCancelled_ok checked
  rcases Step.bind_error ran with added | ⟨_, w₁, added, ran⟩
  · obtain ⟨_, failed⟩ := Visit.onNamespaces_error added
    cases (Prod.mk.inj failed).1
  rcases Step.bind_error ran with registered | ⟨_, w₂, registered, ran⟩
  · obtain ⟨_, failed⟩ := Visit.onNamespaces_error registered
    cases (Prod.mk.inj failed).1
  rcases Step.bind_error ran with typed | ⟨typeName, w₃, typed, ran⟩
  · cases (Prod.mk.inj typed).1
  rcases Step.bind_error ran with streamed | ⟨streamTypeName, w₄, streamed, last⟩
  · cases (Prod.mk.inj streamed).1
  obtain rfl := Visit.typeName_ok typed
  obtain rfl := Visit.typeName_ok streamed
  rcases Step.bind_error last with walked | ⟨below, w₅, walked, rest⟩
  · have start := (Visit.addPlain_ok added).trans (Visit.register_ok registered).1
    exact Or.inl (edges_error plain start.cancelled ((sound_start graph _).registers start)
      (by unfold depthBound; omega) walked)
  rcases Step.bind_error rest with related | ⟨relations, w₆, related, done⟩
  · exact Or.inr (links_error related)
  · exact (Step.pure_not_error done).elim

end Compile

end DocScript
