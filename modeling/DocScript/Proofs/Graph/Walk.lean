import DocScript.Proofs.Graph.Explore
import DocScript.Proofs.Graph.Visit

/-!
# The walk through a graph

A run over some edges walks them depth-first. The blueprints are the parts that are known; each
edge of the walk is written down once, as the creation of its part or as its attachment.
-/

namespace DocScript

variable {ctx : Context} {graph : Graph} {w w' : PartWork}

def PartWork.parts (w : PartWork) : List Part := w.blueprints.values.map (·.part)

/-- The blueprints are those of parts of a graph, under their addresses, and the tally has counted
their types. -/
structure PartWork.Sound (graph : Graph) (w : PartWork) : Prop where
  keyed : ∀ uri b, w.blueprints.get? uri = some b → graph.get? uri = some b.part
  counts : w.tally.Counts (w.parts.map (·.type))

namespace PartWork

variable {b : Blueprint}

theorem Enters.appended (h : w.Enters b w') :
    w'.parts = w.parts ++ [b.part] ∧ w'.blueprints.keys = w.blueprints.keys ++ [b.part.uri] := by
  have entries := OrderedMap.entries_insert_of_not_mem b (OrderedMap.get?_eq_none.mp h.fresh)
  rw [← h.blueprints] at entries
  simp [parts, OrderedMap.values, OrderedMap.keys, entries]

theorem Enters.le (h : w.Enters b w') : w.blueprints ≤ w'.blueprints := by
  rw [h.blueprints]
  exact OrderedMap.le_insert b h.fresh

theorem Enters.get? (h : w.Enters b w') : w'.blueprints.get? b.part.uri = some b := by
  rw [h.blueprints, OrderedMap.get?_insert_self]

theorem Sound.size_le (sound : w.Sound graph) : w.blueprints.size ≤ graph.parts.size := by
  have keys : w.blueprints.keys ⊆ graph.parts.keys := by
    intro uri member
    obtain ⟨b, known⟩ := OrderedMap.contains_iff.mp (OrderedMap.contains_iff_mem_keys.mpr member)
    exact OrderedMap.contains_iff_mem_keys.mp (OrderedMap.contains_iff.mpr ⟨_, sound.keyed uri b known⟩)
  have lengths := List.Nodup.length_le_of_subset w.blueprints.nodup keys
  simpa [OrderedMap.keys, OrderedMap.size] using lengths

theorem Registers.parts (h : w.Registers w') : w'.parts = w.parts := by
  simp only [PartWork.parts, h.blueprints]

theorem Sound.registers (sound : w.Sound graph) (h : w.Registers w') : w'.Sound graph := by
  refine ⟨?_, ?_⟩
  · rw [h.blueprints]
    exact sound.keyed
  · rw [h.parts, h.tally]
    exact sound.counts

theorem Sound.enters (sound : w.Sound graph) (h : w.Enters b w')
    (found : graph.get? b.part.uri = some b.part) : w'.Sound graph := by
  refine ⟨fun uri c known => ?_, ?_⟩
  · rw [h.blueprints, OrderedMap.get?_insert] at known
    split at known
    · next same =>
      obtain rfl := Option.some.inj known
      rwa [same] at found
    · exact sound.keyed uri c known
  · rw [h.appended.1, List.map_append]
    exact h.counts _ sound.counts

end PartWork

/-- The variable that holds a part, or else the package. -/
def holderIn (blueprints : OrderedMap String Blueprint) : Option String → String
  | none => Compile.packageName
  | some uri => ((blueprints.get? uri).map (·.name)).getD ""

theorem holderIn_of_le {known table : OrderedMap String Blueprint} {uri : String} {b : Blueprint}
    (le : known ≤ table) (h : known.get? uri = some b) : holderIn table (some uri) = b.name := by
  rw [holderIn, le uri b h]
  rfl

theorem PartWork.Sound.keys_eq (sound : w.Sound graph) :
    w.blueprints.keys = w.blueprints.values.map (·.part.uri) := by
  rw [OrderedMap.keys, OrderedMap.values, List.map_map]
  refine List.map_congr_left fun entry member => ?_
  have found := sound.keyed entry.1 entry.2 (OrderedMap.mem_entries_iff.mp member)
  exact (Graph.uri_of_get? found).symm

theorem PartWork.Sound.holderIn_eq (sound : w.Sound graph) {b : Blueprint}
    (member : b ∈ w.blueprints.values) : holderIn w.blueprints (some b.part.uri) = b.name := by
  obtain ⟨uri, found⟩ := OrderedMap.mem_values_iff.mp member
  rw [Graph.uri_of_get? (sound.keyed uri b found)]
  exact holderIn_of_le (OrderedMap.le_refl _) found

open Walked Compile

/-- The instructions for an edge that was walked. -/
inductive Records (holder : Option String → String) : Walked → List Instr → Prop
  | attached {owner : Option String} {e : Edge} {p : Part} :
      Records holder ⟨owner, e, p, false⟩
        [.invokeOn (some (.var (holder owner))) "AddPart" [.var (holder (some p.uri)), .text e.id]]
  | created {owner : Option String} {e : Edge} {p : Part} {creation relations : List Instr}
      {routine : String} (creates : Creates (holder owner) (holder (some p.uri)) e.id creation)
      (relate : ∀ i ∈ relations, i.Relates (holder (some p.uri))) :
      Records holder ⟨owner, e, p, true⟩
        (creation ++ fillCall (holder (some p.uri)) routine :: relations ++ [.blank])

/-- The instructions for the edges of a walk, in order. -/
inductive RecordsAll (holder : Option String → String) : List Walked → List Instr → Prop
  | nil : RecordsAll holder [] []
  | cons {v : Walked} {walk : List Walked} {block rest : List Instr} (first : Records holder v block)
      (others : RecordsAll holder walk rest) : RecordsAll holder (v :: walk) (block ++ rest)

theorem RecordsAll.append {holder : Option String → String} {walk more : List Walked}
    {is js : List Instr} (h : RecordsAll holder walk is) (h' : RecordsAll holder more js) :
    RecordsAll holder (walk ++ more) (is ++ js) := by
  induction h with
  | nil => exact h'
  | cons first _ ih =>
    rw [List.append_assoc]
    exact .cons first ih

/-- What a run over some edges of the container in a variable has done in the end. -/
structure Leaves (graph : Graph) (parent : String) (owner : Option String) (es : List Edge)
    (w : PartWork) (walk : List Walked) (is : List Instr) (w' : PartWork) : Prop where
  explores : Explores graph w.blueprints.keys owner es walk w'.blueprints.keys
  sound : w'.Sound graph
  cancelled : w'.shared.cancelled = w.shared.cancelled
  grows : w.blueprints ≤ w'.blueprints
  spaces : w.shared.namespaces ≤ w'.shared.namespaces
  parts : w'.parts = w.parts ++ found walk
  names : ∀ table, w'.blueprints ≤ table → ∀ ns, w'.shared.namespaces ≤ ns →
    (found walk).map (fun p => holderIn table (some p.uri)) =
      (Variable.numbered (w.parts.map (·.type)) ((found walk).map (·.type))).map (·.partName ns)
  records : ∀ table, w'.blueprints ≤ table → holderIn table owner = parent →
    RecordsAll (holderIn table) walk is

namespace Leaves

variable {parent : String} {owner : Option String} {e : Edge} {es : List Edge} {p : Part}
  {walk more : List Walked} {is js : List Instr}

theorem done (sound : w.Sound graph) : Leaves graph parent owner [] w [] [] w where
  explores := .done _ _
  sound := sound
  cancelled := rfl
  grows := OrderedMap.le_refl _
  spaces := Namespaces.le_refl _
  parts := by simp
  names := fun _ _ _ _ => rfl
  records := fun _ _ _ => .nil

/-- The first edge leads to a part with a blueprint. -/
theorem again {b : Blueprint} (found : graph.get? e.target = some p)
    (known : w.blueprints.get? p.uri = some b) (others : Leaves graph parent owner es w walk is w') :
    Leaves graph parent owner (e :: es) w (⟨owner, e, p, false⟩ :: walk)
      (.invokeOn (some (.var parent)) "AddPart" [.var b.name, .text e.id] :: is) w' where
  explores := .again found
    (OrderedMap.contains_iff_mem_keys.mp (OrderedMap.contains_iff.mpr ⟨b, known⟩)) others.explores
  sound := others.sound
  cancelled := others.cancelled
  grows := others.grows
  spaces := others.spaces
  parts := others.parts
  names := others.names
  records := by
    intro table le held
    have attached : Records (holderIn table) ⟨owner, e, p, false⟩ _ := .attached
    rw [held, holderIn_of_le (OrderedMap.le_trans others.grows le) known] at attached
    exact .cons attached (others.records table le held)

/-- The first edge leads to a new part, whose edges come next. -/
theorem first {name : String} {block : List Instr} {w₁ w₂ : PartWork} {parentType : TypeId}
    (sound : w.Sound graph) (found : graph.get? e.target = some p)
    (made : newPart ctx parent parentType e p w = (.ok (block, name), w₁))
    (below : Leaves graph name (some p.uri) p.children w₁ walk is w₂)
    (others : Leaves graph parent owner es w₂ more js w') :
    Leaves graph parent owner (e :: es) w (⟨owner, e, p, true⟩ :: (walk ++ more))
      (block ++ is ++ js) w' := by
  obtain ⟨entered, ⟨creation, relations, rfl, creates, relate⟩, naming⟩ := newPart_ok made
  obtain ⟨parts₁, keys₁⟩ := entered.appended
  -- A blueprint is never replaced, so the name of the part stays what it was when it was entered.
  have spaces := Namespaces.le_trans below.spaces others.spaces
  have known : w₁.blueprints ≤ w'.blueprints := OrderedMap.le_trans below.grows others.grows
  have held (table : OrderedMap String Blueprint) (le : w'.blueprints ≤ table) :
      holderIn table (some p.uri) = name :=
    holderIn_of_le (OrderedMap.le_trans known le) entered.get?
  refine ⟨?_, others.sound, ?_, ?_, ?_, ?_, fun table le ns le' => ?_, fun table le self => ?_⟩
  · have explores := below.explores
    rw [keys₁] at explores
    exact .first found (OrderedMap.get?_eq_none.mp entered.fresh) explores others.explores
  · rw [others.cancelled, below.cancelled, entered.cancelled]
  · exact OrderedMap.le_trans entered.le known
  · exact Namespaces.le_trans entered.grows spaces
  · rw [others.parts, below.parts, parts₁]
    simp
  · have early := below.names table (OrderedMap.le_trans others.grows le) ns
      (Namespaces.le_trans others.spaces le')
    have late := others.names table le ns le'
    rw [parts₁] at early
    rw [below.parts, parts₁] at late
    simp only [List.map_append, List.map_cons, List.map_nil] at early late
    simp only [found_first, found_append, List.map_cons, List.map_append, Variable.numbered,
      Variable.numbered_append, early, late, held table le]
    rw [naming _ sound.counts ns (Namespaces.le_trans spaces le')]
  · have created : Records (holderIn table) ⟨owner, e, p, true⟩
        (creation ++ fillCall (holderIn table (some p.uri)) (fillName name) :: relations ++ [.blank]) :=
      .created (by rwa [self, held table le]) (by rwa [held table le])
    have rest := (below.records table (OrderedMap.le_trans others.grows le) (held table le)).append
      (others.records table le self)
    rw [held table le] at created
    rw [List.append_assoc]
    exact .cons created rest

theorem size_le (h : Leaves graph parent owner es w walk is w') :
    w.blueprints.size ≤ w'.blueprints.size := by
  have lengths := congrArg List.length h.explores.last_eq
  simp only [OrderedMap.keys, List.length_append, List.length_map] at lengths
  unfold OrderedMap.size
  omega

end Leaves

/-- An edge that a run cannot follow, and how it fails there. -/
inductive Graph.Stops (graph : Graph) (e : Edge) : Failure → Prop
  | dangling (out : graph.get? e.target = none) :
      Stops graph e (.unmet (.edgeTarget e.id e.target))
  | unreadable {p : Part} {fault : Uri.Fault} (found : graph.get? e.target = some p)
      (unread : Unreadable p.hyperlinks p.externals fault) : Stops graph e (.address fault)

theorem Graph.Stops.of_readable {e : Edge} {failure : Failure} (h : graph.Stops e failure)
    (readable : ∀ p ∈ graph.parts.values, Readable p.hyperlinks p.externals) :
    graph.get? e.target = none ∧ failure = .unmet (.edgeTarget e.id e.target) := by
  cases h with
  | dangling out => exact ⟨out, rfl⟩
  | unreadable found unread =>
    exact ((readable _ (Graph.mem_values found)).not_unreadable unread).elim

namespace Compile

variable {fuel : Nat} {parent : String} {parentType : TypeId} {owner : Option String}
  {es : List Edge} {is : List Instr} {failure : Failure}

theorem newPart_sound {name : String} {block : List Instr} {e : Edge} {part : Part}
    (sound : w.Sound graph) (found : graph.get? e.target = some part)
    (made : newPart ctx parent parentType e part w = (.ok (block, name), w')) :
    w'.Sound graph ∧ w'.shared.cancelled = w.shared.cancelled ∧
      w'.blueprints.size = w.blueprints.size + 1 := by
  have entered := (newPart_ok made).1
  have lengths := congrArg List.length entered.appended.2
  refine ⟨sound.enters entered (Graph.get?_uri found), entered.cancelled, ?_⟩
  simpa [OrderedMap.keys, OrderedMap.size] using lengths

theorem edges_sound (plain : ctx.handlers = .none) (sound : w.Sound graph)
    (ran : Step.collect (edge ctx graph fuel parent parentType) es w = (.ok is, w')) :
    w'.Sound graph ∧ w.blueprints.size ≤ w'.blueprints.size := by
  refine edges_induction
    (motive := fun w _ w' => w.Sound graph → w'.Sound graph ∧ w.blueprints.size ≤ w'.blueprints.size)
    plain (fun _ sound => ⟨sound, Nat.le_refl _⟩) ?_ (fun _ _ _ _ sound => ⟨sound, Nat.le_refl _⟩) ?_
    ran sound
  · intro u v w is js first others sound
    obtain ⟨sound₁, size₁⟩ := first sound
    obtain ⟨sound₂, size₂⟩ := others sound₁
    exact ⟨sound₂, Nat.le_trans size₁ size₂⟩
  · intro parent parentType e part u block name v found made sound
    obtain ⟨sound₁, _, size₁⟩ := newPart_sound sound found made
    exact ⟨sound₁, by omega⟩

/-- Induction along a walk. Every level of recursion has one more blueprint and one less fuel, so that
the fuel is never used up. -/
theorem edges_walk (plain : ctx.handlers = .none)
    {motive : String → TypeId → List Edge → PartWork → List Instr → PartWork → Prop}
    (done : ∀ parent parentType w, motive parent parentType [] w [] w)
    (again : ∀ {parent parentType e es p b w is w'}, graph.get? e.target = some p →
      w.blueprints.get? p.uri = some b → motive parent parentType es w is w' →
      motive parent parentType (e :: es) w
        (.invokeOn (some (.var parent)) "AddPart" [.var b.name, .text e.id] :: is) w')
    (first : ∀ {parent parentType e es p block name w w₁ w₂ is js w'},
      graph.get? e.target = some p → newPart ctx parent parentType e p w = (.ok (block, name), w₁) →
      motive name p.type p.children w₁ is w₂ → motive parent parentType es w₂ js w' →
      motive parent parentType (e :: es) w (block ++ is ++ js) w')
    (sound : w.Sound graph) (enough : graph.parts.size < fuel + w.blueprints.size)
    (ran : Step.collect (edge ctx graph fuel parent parentType) es w = (.ok is, w')) :
    motive parent parentType es w is w' := by
  -- The outer induction goes down into new parts, the inner one along the edges of one part.
  induction fuel generalizing parent parentType es w is w' with
  | zero =>
    have := sound.size_le
    omega
  | succ fuel deeper =>
    induction es generalizing w is with
    | nil =>
      obtain ⟨rfl, rfl⟩ := Step.pure_ok ran
      exact done _ _ _
    | cons e rest ih =>
      obtain ⟨_, u, more, start, others, rfl⟩ := Step.collect_cons_ok ran
      obtain ⟨sound', size⟩ := edges_sound plain sound (Step.collect_singleton start)
      have later := ih sound' (by omega) others
      obtain ⟨part, found, ⟨b, known, rfl, rfl⟩ | ⟨block, name, w₁, below, made, inner, rfl⟩⟩ :=
        edge_ok plain start
      · exact again found known later
      · obtain ⟨sound₁, _, size₁⟩ := newPart_sound sound found made
        exact first found made (deeper sound₁ (by omega) inner) later

/-- A run over some edges that ends well has walked them. -/
theorem edges_ok (owner : Option String) (plain : ctx.handlers = .none) (sound : w.Sound graph)
    (enough : graph.parts.size < fuel + w.blueprints.size)
    (ran : Step.collect (edge ctx graph fuel parent parentType) es w = (.ok is, w')) :
    ∃ walk, Leaves graph parent owner es w walk is w' := by
  refine edges_walk (motive := fun parent _ es w is w' => ∀ owner, w.Sound graph →
    ∃ walk, Leaves graph parent owner es w walk is w') plain ?_ ?_ ?_ sound enough ran owner sound
  · intro parent parentType w owner sound
    exact ⟨[], .done sound⟩
  · intro parent parentType e es p b w is w' found known others owner sound
    obtain ⟨walk, left⟩ := others owner sound
    exact ⟨_, .again found known left⟩
  · intro parent parentType e es p block name w w₁ w₂ is js w' found made below others owner sound
    obtain ⟨walk, left⟩ := below (some p.uri) (newPart_sound sound found made).1
    obtain ⟨walk', left'⟩ := others owner left.sound
    exact ⟨_, .first sound found made left left'⟩

/-- A run over some edges that was not cancelled can only fail at an edge that can be reached, if
that leads out of the graph or to a part with an address that cannot be read. -/
theorem edges_error (plain : ctx.handlers = .none) (running : w.shared.cancelled = false)
    (sound : w.Sound graph) (enough : graph.parts.size < fuel + w.blueprints.size)
    (ran : Step.collect (edge ctx graph fuel parent parentType) es w = (.error failure, w')) :
    ∃ e, graph.Leads es e ∧ graph.Stops e failure := by
  induction fuel generalizing parent parentType es w with
  | zero =>
    have := sound.size_le
    omega
  | succ fuel deeper =>
    induction es generalizing w with
    | nil => exact (Step.pure_not_error ran).elim
    | cons e rest ih =>
      have start : graph.Leads (e :: rest) e := .here List.mem_cons_self
      rcases Step.collect_cons_error ran with first | ⟨is, u, first, others⟩
      · rcases edge_error plain first with cancelled | ⟨out, why⟩ | ⟨part, found, fresh, here | ⟨block,
          name, w₁, made, inner⟩⟩
        · rw [running] at cancelled
          cases cancelled
        · subst why
          exact ⟨e, start, .dangling out⟩
        · rcases newPart_error here with twice | ⟨fault, unread, why⟩
          · rw [OrderedMap.contains, fresh] at twice
            cases twice
          · subst why
            exact ⟨e, start, .unreadable found unread⟩
        · obtain ⟨sound₁, cancelled₁, size₁⟩ := newPart_sound sound found made
          obtain ⟨f, leads, stops⟩ := deeper (cancelled₁.trans running) sound₁ (by omega) inner
          exact ⟨f, start.trans found leads, stops⟩
      · obtain ⟨walk, left⟩ := edges_ok none plain sound enough (Step.collect_singleton first)
        have size := left.size_le
        obtain ⟨f, leads, stops⟩ := ih (left.cancelled.trans running) left.sound (by omega) others
        exact ⟨f, leads.mono (List.subset_cons_self _ _), stops⟩

end Compile

end DocScript
