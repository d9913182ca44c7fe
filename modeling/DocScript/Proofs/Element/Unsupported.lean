import DocScript.Proofs.Element.Skipped

/-!
# Where an element tree cannot be built

Some elements cannot be made whatever their values: the schema does not know their types, or they
are raw payload that does not say of what kind it is. A run that reaches such an element fails at
the first one in pre-order, and says by which types it is reached from the root.
-/

namespace DocScript

namespace Compile

open Build

variable {ctx : Context} {e : Element} {above : List Element}

def Opaque (ctx : Context) (e : Element) : Prop :=
  ∃ r, ctx.registry.element? e.type = some r ∧ r.spec.category = .opaqueNode

/-- The schema does not know the type of the element, or it is raw payload of no kind. -/
def Unmakeable (ctx : Context) (e : Element) : Prop :=
  ctx.registry.element? e.type = none ∨
    ∃ r, ctx.registry.element? e.type = some r ∧ r.spec.category = .rawPayload ∧
      (e.rawKind = none ∨ e.rawKind = some "")

theorem noKind_iff : e.rawKind.getD "" = "" ↔ e.rawKind = none ∨ e.rawKind = some "" := by
  cases e.rawKind <;> simp

instance (ctx : Context) (e : Element) : Decidable (Opaque ctx e) :=
  decidable_of_iff ((ctx.registry.element? e.type).any (·.spec.category = .opaqueNode) = true) <| by
    simp [Opaque, Option.any_eq_true]

instance (ctx : Context) (e : Element) : Decidable (Unmakeable ctx e) :=
  decidable_of_iff ((ctx.registry.element? e.type).all
      (fun r => r.spec.category = .rawPayload && e.rawKind.getD "" = "") = true) <| by
    cases known : ctx.registry.element? e.type <;> simp [Unmakeable, known, noKind_iff]

def reason (ctx : Context) (e : Element) : Unsupported :=
  if ctx.registry.element? e.type = none then .elementType e.type else .rawKind e.type

/-- An element of a tree, below the elements above it, the root first. -/
structure Place where
  above : List Element
  element : Element

/-- The names of the types from the root down to the element. -/
def Place.path (p : Place) : List String := (p.above ++ [p.element]).map (·.type.name)

mutual

/-- The places of a tree that a run reaches, in pre-order: what is skipped is not reached, nor is
what is below an opaque element. -/
def places (ctx : Context) (above : List Element) : Element → List Place
  | e@⟨_, children, _, _, _, _, _, _⟩ =>
    if Skipped ctx e then []
    else ⟨above, e⟩ :: if Opaque ctx e then [] else placesAll ctx (above ++ [e]) children

def placesAll (ctx : Context) (above : List Element) : List Element → List Place
  | [] => []
  | e :: rest => places ctx above e ++ placesAll ctx above rest

end

def firstUnmakeable (ctx : Context) (ps : List Place) : Option Place :=
  ps.find? fun p => Unmakeable ctx p.element

def Place.failure (ctx : Context) (p : Place) : Failure :=
  .unsupported (reason ctx p.element) (some ⟨p.path, none⟩)

theorem places_eq (ctx : Context) (above : List Element) (e : Element) :
    places ctx above e =
      if Skipped ctx e then []
      else ⟨above, e⟩ :: if Opaque ctx e then [] else placesAll ctx (above ++ [e]) e.children := by
  obtain ⟨type, children, properties, declarations, text, payload, rawKind, markup⟩ := e
  rw [places]

theorem first_of_unmakeable {p : Place} {ps : List Place} (bad : Unmakeable ctx p.element) :
    firstUnmakeable ctx (p :: ps) = some p :=
  List.find?_cons_of_pos (decide_eq_true bad)

theorem first_of_makeable {p : Place} {ps : List Place} (fine : ¬ Unmakeable ctx p.element) :
    firstUnmakeable ctx (p :: ps) = firstUnmakeable ctx ps :=
  List.find?_cons_of_neg (by simpa using fine)

theorem location_below (path : List String) (name : String) :
    Location.of? (path ++ [name]) none = some ⟨path ++ [name], none⟩ := by
  simp [Location.of?]

theorem faults_eq_first {es : List Element} {path : List String}
    (each : ∀ c ∈ es, fault ctx path c =
      (firstUnmakeable ctx (places ctx above c)).map (Place.failure ctx)) :
    faults ctx path es = (firstUnmakeable ctx (placesAll ctx above es)).map (Place.failure ctx) := by
  induction es with
  | nil => rw [faults, placesAll]; rfl
  | cons c rest ih =>
    have others := ih fun d member => each d (List.mem_cons_of_mem c member)
    rw [faults, placesAll, each c List.mem_cons_self, others, firstUnmakeable, firstUnmakeable,
      firstUnmakeable, List.find?_append, Option.map_or]

theorem headFault_eq {r : ResolvedElement} {path : List String}
    (known : ctx.registry.element? e.type = some r)
    (timely : ∀ p ∈ r.simple, simpleFault e p = none) :
    headFault e r path =
      if Unmakeable ctx e then some (.unsupported (reason ctx e) (Location.of? path none))
      else none := by
  have unmakeable : Unmakeable ctx e ↔ r.spec.category = .rawPayload ∧ e.rawKind.getD "" = "" := by
    simp [Unmakeable, known, noKind_iff]
  have named : reason ctx e = .rawKind e.type := by simp [reason, known]
  rw [headFault, List.findSome?_eq_none_iff.mpr timely, Option.or_none, creationFault, named]
  simp only [unmakeable]

/-- If all dates are in range, a tree is not built because of the first place at which an element
cannot be made. -/
theorem fault_eq_first (e : Element) : ∀ above, MomentsInRange ctx e →
    fault ctx (above.map (·.type.name)) e =
      (firstUnmakeable ctx (places ctx above e)).map (Place.failure ctx) := by
  induction e using Element.induction with
  | step e ih =>
    intro above timely
    have path : above.map (·.type.name) ++ [e.type.name] = (above ++ [e]).map (·.type.name) := by
      rw [List.map_append, List.map_singleton]
    have located := location_below (above.map (·.type.name)) e.type.name
    rw [fault_eq, places_eq]
    cases known : ctx.registry.element? e.type with
    | none =>
      have seen : ¬ Skipped ctx e := by simp [Skipped, known]
      have bad : Unmakeable ctx e := Or.inl known
      have named : reason ctx e = .elementType e.type := if_pos known
      rw [if_neg seen, first_of_unmakeable bad, Option.map_some, Place.failure, named, Place.path]
      dsimp only
      rw [located, path]
    | some r =>
      have skipped_iff : skips ctx.settings (some r) e = true ↔ Skipped ctx e := by
        rw [← known]
        exact skips_iff
      have opaque_iff : r.spec.category = .opaqueNode ↔ Opaque ctx e := by simp [Opaque, known]
      dsimp only
      simp only [Bool.or_eq_true, decide_eq_true_eq, skipped_iff, opaque_iff]
      by_cases skipped : Skipped ctx e
      · rw [if_pos (Or.inl skipped), if_pos skipped]
        rfl
      · rw [if_neg skipped]
        by_cases only : Opaque ctx e
        · have fine : ¬ Unmakeable ctx e := by simp [Unmakeable, known, opaque_iff.mpr only]
          rw [if_pos (Or.inr only), if_pos only, first_of_makeable fine]
          rfl
        · have entered : ¬ (skips ctx.settings (some r) e = true ∨ r.spec.category = .opaqueNode) := by
            rw [skipped_iff, opaque_iff]
            exact not_or.mpr ⟨skipped, only⟩
          obtain ⟨own, below⟩ := (momentsInRange_iff known entered).mp timely
          rw [if_neg (not_or.mpr ⟨skipped, only⟩), if_neg only, headFault_eq known own]
          -- The element is made before its children, so it comes first among the places.
          by_cases bad : Unmakeable ctx e
          · rw [if_pos bad, first_of_unmakeable bad, located, path]
            rfl
          · have children : faults ctx ((above ++ [e]).map (·.type.name)) e.children =
                (firstUnmakeable ctx (placesAll ctx (above ++ [e]) e.children)).map
                  (Place.failure ctx) :=
              faults_eq_first fun c member => ih c member (above ++ [e]) (below c member)
            rw [if_neg bad, first_of_makeable bad, Option.none_or, path, children]

theorem first_eq_none_iff {ps : List Place} :
    firstUnmakeable ctx ps = none ↔ ∀ p ∈ ps, ¬ Unmakeable ctx p.element := by
  rw [firstUnmakeable, List.find?_eq_none]
  simp only [decide_eq_true_eq]

theorem first_eq_some {p : Place} {ps : List Place} (found : firstUnmakeable ctx ps = some p) :
    p ∈ ps ∧ Unmakeable ctx p.element := by
  refine ⟨List.mem_of_find?_eq_some found, of_decide_eq_true ?_⟩
  exact List.find?_some (p := fun q : Place => decide (Unmakeable ctx q.element)) found

theorem outcome_ok {α : Type} {ran : Except Failure α × Workspace} (h : Build.Outcome ran none) :
    ∃ a, ran.1 = .ok a := by
  cases h with
  | done a running => exact ⟨a, rfl⟩

theorem outcome_error {α : Type} {ran : Except Failure α × Workspace} {failure : Failure}
    (h : Build.Outcome ran (some failure)) : ran.1 = .error failure := by
  cases h with
  | failed failure w => rfl

/-- If all dates are in range, a run without handlers that is not cancelled reports an unsupported
construction if and only if it reaches an element that cannot be made. It reports the first one in
pre-order, by the names of the types from the root down to it; if there is none, it ends well. -/
theorem root_unsupported_iff (plain : ctx.handlers = .none) {e : Element}
    (timely : MomentsInRange ctx e) {w : Workspace} (running : w.shared.cancelled = false) :
    let result := (root ctx (some e) w).1
    ((∃ what place, result = .error (.unsupported what place)) ↔
      ∃ p ∈ places ctx [] e, Unmakeable ctx p.element) ∧
    (∀ p, firstUnmakeable ctx (places ctx [] e) = some p →
      result = .error (.unsupported (reason ctx p.element) (some ⟨p.path, none⟩))) ∧
    ((∀ p ∈ places ctx [] e, ¬ Unmakeable ctx p.element) → ∃ out, result = .ok out) := by
  intro result
  have outcome : Build.Outcome (root ctx (some e) w) (fault ctx [] e) := ends_element plain e [] w running
  have first : fault ctx [] e = _ := fault_eq_first e [] timely
  rw [first] at outcome
  cases found : firstUnmakeable ctx (places ctx [] e) with
  | none =>
    have clean := first_eq_none_iff.mp found
    rw [found] at outcome
    obtain ⟨out, ok⟩ := outcome_ok outcome
    refine ⟨⟨?_, ?_⟩, ?_, fun _ => ⟨out, ok⟩⟩
    · rintro ⟨what, place, failed⟩
      rw [show result = .ok out from ok] at failed
      cases failed
    · rintro ⟨p, member, bad⟩
      exact absurd bad (clean p member)
    · intro p absent
      cases absent
  | some p =>
    obtain ⟨member, bad⟩ := first_eq_some found
    rw [found] at outcome
    have failed : result = .error (p.failure ctx) := outcome_error outcome
    refine ⟨⟨fun _ => ⟨p, member, bad⟩, fun _ => ⟨_, _, failed⟩⟩, ?_, ?_⟩
    · intro q same
      obtain rfl := Option.some.inj same
      exact failed
    · intro clean
      exact absurd bad (clean p member)

def markedContext : Context :=
  { pagesContext with settings := { pagesContext.settings with skipOpaque := false } }

/-- What is below a mark is not reached, nor is the media of the kind that is skipped; the pages
before the media without a kind can be made. -/
theorem album_unsupported :
    let album := page [mark [media none []], media (some "audio") [media none []],
      page [page [], media none [page []]], media (some "") []]
    markedContext.handlers = .none ∧ MomentsInRange markedContext album ∧
      (Shared.start false).cancelled = false ∧
      (root markedContext (some album) ⟨.start false, .empty⟩).1 =
        .error (.unsupported (.rawKind (.plain "N" "Media"))
          (some ⟨["Page", "Page", "Media"], none⟩)) := by
  intro album
  have plain : markedContext.handlers = .none := rfl
  have timely : MomentsInRange markedContext album := by
    have simple : (furnished markedContext album).all (·.2.simple.isEmpty) = true := rfl
    intro n r member p property
    have none := List.all_eq_true.mp simple (n, r) member
    rw [List.isEmpty_iff.mp none] at property
    cases property
  have running : (Shared.start false).cancelled = false := rfl
  have first : firstUnmakeable markedContext (places markedContext [] album) =
      some ⟨[album, page [page [], media none [page []]]], media none [page []]⟩ := rfl
  have reported :=
    (root_unsupported_iff plain timely (w := ⟨.start false, .empty⟩) running).2.1 _ first
  exact ⟨plain, timely, running, reported⟩

end Compile

end DocScript
