import Mathlib
import DocScript.Compile.Script
import DocScript.Proofs.Element.Modes
import DocScript.Proofs.Graph.Visit
import DocScript.Proofs.Script.Target

/-!
# Scripts in both modes of naming

The variables of parts are named by a tally, in both modes alike. So all that differs between the
scripts of the two modes is how the variables of elements are named, and that a routine that may
use a variable again does so.
-/

namespace DocScript

open Step Instr

/-- No element below a part has a type without a name. -/
def Part.Named (p : Part) : Prop := ∀ e, p.content = .root e → ∀ t ∈ e.types, t.name ≠ ""

def Graph.Named (graph : Graph) : Prop := ∀ p ∈ graph.parts.values, p.Named

def Target.Named : Target → Prop
  | .element e _ => ∀ t ∈ e.types, t.name ≠ ""
  | .part _ graph => graph.Named
  | .package p _ => p.graph.Named

namespace Visit

variable {ctx : Context} {α β : Type} {R : α → β → Prop}

/-- The same work, in which all parts that were visited have named elements. -/
structure Like (w w' : PartWork) : Prop where
  same : w = w'
  named : ∀ b ∈ w.blueprints.values, b.part.Named

abbrev Matches (R : α → β → Prop) (m : Visit α) (m' : Visit β) : Prop := Step.Matches Like R m m'

theorem matches_checkCancelled : Matches Eq checkCancelled checkCancelled := by
  rintro w _ ⟨rfl, named⟩
  unfold checkCancelled
  split
  · exact .error _ w w
  · exact .ok rfl ⟨rfl, named⟩

theorem matches_onNamespaces {m : Step Namespaces α} {m' : Step Namespaces β}
    (h : Step.Matches Eq R m m') : Matches R (onNamespaces m) (onNamespaces m') := by
  rintro w _ ⟨rfl, named⟩
  unfold onNamespaces
  rcases (h w.shared.namespaces _ rfl).cases with
    ⟨a, b, s, _, ran, ran', related, rfl⟩ | ⟨e, s, t, ran, ran'⟩
  · rw [ran, ran']
    exact .ok related ⟨rfl, named⟩
  · rw [ran, ran']
    exact .error e _ _

theorem matches_addPlain (space : String) : Matches Eq (addPlain space) (addPlain space) :=
  matches_onNamespaces (matches_self _)

theorem matches_register (t : TypeId) :
    Matches Eq (register (ctx.inMode true) t) (register (ctx.inMode false) t) :=
  matches_onNamespaces (matches_self _)

theorem matches_typeName (t : TypeId) :
    Matches Eq (typeName (ctx.inMode true) t) (typeName (ctx.inMode false) t) := by
  refine matches_read ?_
  rintro w _ ⟨rfl, _⟩
  rfl

theorem matches_nextName (t : TypeId) : Matches Eq (nextName t) (nextName t) := by
  rintro w _ ⟨rfl, named⟩
  exact .ok rfl ⟨rfl, named⟩

theorem matches_enter {b : Blueprint} (own : b.part.Named) : Matches Eq (enter b) (enter b) := by
  rintro w _ ⟨rfl, named⟩
  unfold enter
  split
  · exact .error _ w w
  · refine .ok rfl ⟨rfl, fun other member => ?_⟩
    obtain ⟨uri, found⟩ := OrderedMap.mem_values_iff.mp member
    dsimp only at found
    rw [OrderedMap.get?_insert] at found
    split at found
    · obtain rfl := Option.some.inj found
      exact own
    · exact named other (OrderedMap.mem_values_iff.mpr ⟨uri, found⟩)

theorem matches_buildAlone {m : Build α} {m' : Build β} (h : Build.Matches R m m') :
    Matches R (buildAlone m) (buildAlone m') := by
  rintro w _ ⟨rfl, named⟩
  unfold buildAlone
  have like : Build.Like ⟨w.shared, .empty⟩ ⟨w.shared, .empty⟩ :=
    ⟨rfl, Pools.full_empty, Pools.full_empty⟩
  rcases (h _ _ like).cases with ⟨a, b, s, t, ran, ran', related, like'⟩ | ⟨e, s, t, ran, ran'⟩
  · rw [ran, ran']
    dsimp only
    rw [like'.shared]
    exact .ok related ⟨rfl, named⟩
  · rw [ran, ran']
    exact .error e _ _

end Visit

namespace Compile

variable {ctx : Context} {graph : Graph}

open Visit (Matches)

/-! ### Edges -/

theorem matches_group {α : Type} {f : α → Step Namespaces (List Instr)}
    (each : ∀ a, Step.Matches Eq ModesAll (f a) (f a)) (links : List α) :
    Step.Matches Eq ModesAll (group f links) (group f links) := by
  unfold group
  split
  · exact matches_pure .nil
  · exact (matches_collect_same fun a _ => each a).bind fun _ _ calls =>
      matches_pure (.cons modes_blank calls)

theorem matches_links (owner : String) (hyperlinks : List Hyperlink) (externals : List ExternalLink) :
    Matches ModesAll (links (ctx.inMode true) owner hyperlinks externals)
      (links (ctx.inMode false) owner hyperlinks externals) := by
  refine Visit.matches_onNamespaces ?_
  unfold relationships
  have hyperlink (h : Hyperlink) : Step.Matches Eq ModesAll
      (hyperlink ctx.settings.policy (.var owner) h) (hyperlink ctx.settings.policy (.var owner) h) := by
    refine (matches_self (uriExpr _ h.uri)).bind_same fun uri => ?_
    exact matches_pure (.cons (modes_invokeOn rfl) .nil)
  have external (x : ExternalLink) : Step.Matches Eq ModesAll
      (externalLink ctx.settings.policy (.var owner) x)
      (externalLink ctx.settings.policy (.var owner) x) := by
    refine (matches_self (uriExpr _ x.uri)).bind_same fun uri => ?_
    exact matches_pure (.cons (modes_invokeOn rfl) .nil)
  refine (matches_group hyperlink hyperlinks).bind fun _ _ calls => ?_
  exact (matches_group external externals).bind fun _ _ more =>
    matches_pure (forall₂_append calls more)

theorem modes_fillCall (name routine : String) : Modes (fillCall name routine) (fillCall name routine) :=
  modes_same (fresh_of_walk rfl rfl)

theorem matches_partCreation (parent : String) (parentType : TypeId) (e : Edge) (part : Part)
    (name : String) : Matches ModesAll
      (partCreation (ctx.inMode true) parent parentType e part name)
      (partCreation (ctx.inMode false) parent parentType e part name) := by
  unfold partCreation
  refine (Visit.matches_typeName part.type).bind_same fun typeName => ?_
  have known : (ctx.inMode true).registry = (ctx.inMode false).registry := rfl
  rw [known]
  dsimp only
  split
  · exact matches_pure (.cons (modes_declare typeName [] _ false) .nil)
  · next op _ =>
    refine matches_pure (.cons (modes_declare typeName [] _ false) ?_)
    split
    · exact .nil
    · exact .cons (modes_invokeOn rfl) .nil

theorem matches_newPart {part : Part} (named : part.Named) (parent : String) (parentType : TypeId)
    (e : Edge) :
    Matches (fun made made' => ModesAll made.1 made'.1 ∧ made.2 = made'.2)
      (newPart (ctx.inMode true) parent parentType e part)
      (newPart (ctx.inMode false) parent parentType e part) := by
  unfold newPart
  refine (Visit.matches_register part.type).bind_same fun _ => ?_
  refine (Visit.matches_nextName part.type).bind_same fun name => ?_
  refine (matches_partCreation parent parentType e part name).bind fun _ _ creation => ?_
  have entered : Matches Eq (Visit.enter ⟨part, name, fillName name⟩)
      (Visit.enter ⟨part, name, fillName name⟩) := Visit.matches_enter named
  refine entered.bind fun _ _ _ => ?_
  refine (matches_links name part.hyperlinks part.externals).bind fun _ _ relations => ?_
  have filled := forall₂_append creation (.cons (modes_fillCall name (fillName name)) relations)
  exact matches_pure ⟨forall₂_append filled (.cons modes_blank .nil), rfl⟩

theorem matches_edge (plain : ctx.handlers = .none) (trees : graph.Named) :
    ∀ (fuel : Nat) (parent : String) (parentType : TypeId) (e : Edge),
      Matches ModesAll (edge (ctx.inMode true) graph fuel parent parentType e)
        (edge (ctx.inMode false) graph fuel parent parentType e) := by
  intro fuel
  induction fuel with
  | zero => intro _ _ _; exact matches_pure .nil
  | succ fuel deeper =>
    intro parent parentType e
    unfold edge
    refine Visit.matches_checkCancelled.bind_same fun _ => ?_
    cases found : graph.get? e.target with
    | none => exact matches_fail _
    | some part =>
      have named : part.Named := trees part (OrderedMap.mem_values_iff.mpr ⟨e.target, found⟩)
      have unhandled (unique : Bool) : handledEdge (ctx.inMode unique) parent e part = pure none :=
        handledEdge_eq plain parent e part
      dsimp only
      rw [unhandled, unhandled, pure_then, pure_then]
      have known : Matches Eq (Step.read (·.blueprints.get? part.uri))
          (Step.read (·.blueprints.get? part.uri)) := by
        refine matches_read ?_
        rintro w _ ⟨rfl, _⟩
        rfl
      refine known.bind_same fun before => ?_
      cases before with
      | some b => exact matches_pure (.cons (modes_invokeOn rfl) .nil)
      | none =>
        refine (matches_newPart named parent parentType e).bind ?_
        rintro ⟨creation, name⟩ ⟨_, _⟩ ⟨code, rfl⟩
        refine (matches_collect_same fun child _ => deeper name part.type child).bind fun _ _ below => ?_
        exact matches_pure (forall₂_append code below)

theorem matches_edges (plain : ctx.handlers = .none) (trees : graph.Named) (parent : String)
    (parentType : TypeId) (children : List Edge) :
    Matches ModesAll (edges (ctx.inMode true) graph parent parentType children)
      (edges (ctx.inMode false) graph parent parentType children) :=
  matches_collect_same fun child _ => matches_edge plain trees _ parent parentType child

/-! ### Routines of parts -/

theorem modes_feed (base64 stream : String) (value : Expr) :
    ModesAll [.declare "base64" "string" [] (some (.text base64)), .blank,
      .scope [.declare "mem" stream [] (some value)]
        [.invokeOn (some (.var partName)) "FeedData" [.var "mem"]]
        [.invokeOn (some (.var "mem")) "Dispose" []]]
      [.declare "base64" "string" [] (some (.text base64)), .blank,
      .scope [.declare "mem" stream [] (some value)]
        [.invokeOn (some (.var partName)) "FeedData" [.var "mem"]]
        [.invokeOn (some (.var "mem")) "Dispose" []]] := by
  refine .cons (modes_declare "string" [] _ false) (.cons modes_blank (.cons (modes_same ?_) .nil))
  refine fresh_scope ?_ ?_ ?_
  · exact List.forall_mem_singleton.mpr (fresh_of_walk rfl rfl)
  · exact List.forall_mem_singleton.mpr (fresh_of_walk rfl rfl)
  · exact List.forall_mem_singleton.mpr (fresh_of_walk rfl rfl)

theorem matches_payloadFeed (bytes : List UInt8) :
    Matches ModesAll (payloadFeed (ctx.inMode true) bytes) (payloadFeed (ctx.inMode false) bytes) := by
  unfold payloadFeed
  refine (Visit.matches_addPlain _).bind_same fun _ => (Visit.matches_addPlain _).bind_same fun _ => ?_
  refine (Visit.matches_typeName convertType).bind_same fun convert => ?_
  refine (Visit.matches_typeName streamType).bind_same fun stream => ?_
  refine (Visit.matches_typeName memoryStreamType).bind_same fun memory => ?_
  exact matches_pure (modes_feed _ stream _)

theorem matches_content (plain : ctx.handlers = .none) {part : Part} (named : part.Named) :
    Matches ModesAll (content (ctx.inMode true) part) (content (ctx.inMode false) part) := by
  unfold content
  cases whole : part.content with
  | none => exact matches_pure .nil
  | binary bytes => exact matches_payloadFeed bytes
  | root e =>
    -- The names of both roots are empty or neither is, so both are assigned or neither is.
    have tree := Visit.matches_buildAlone (matches_element plain e (named e whole) [])
    refine tree.bind fun out out' outputs => ?_
    unfold rootAssignment
    have same : rootProperty (ctx.inMode true) part e = rootProperty (ctx.inMode false) part e := rfl
    by_cases empty : out.name = ""
    · rw [if_pos empty, if_pos (outputs.skipped.mp empty)]
      exact matches_pure (forall₂_append outputs.code .nil)
    · rw [if_neg empty, if_neg fun empty' => empty (outputs.skipped.mpr empty'), same]
      cases rootProperty (ctx.inMode false) part e with
      | error failure => exact matches_fail failure
      | ok property =>
        exact matches_pure (forall₂_append outputs.code (.cons (modes_set rfl) .nil))

theorem matches_helper (plain : ctx.handlers = .none) {b : Blueprint} (named : b.part.Named) :
    Matches (List.Forall₂ Routine.Modes) (helper (ctx.inMode true) b) (helper (ctx.inMode false) b) := by
  have unhandled (unique : Bool) : handledRoutine (ctx.inMode unique) b = pure none := by
    unfold handledRoutine
    rw [show (ctx.inMode unique).handlers = .none from plain]
    rfl
  unfold helper
  refine Visit.matches_checkCancelled.bind_same fun _ => ?_
  rw [unhandled, unhandled, pure_then, pure_then]
  dsimp only
  have filled : Matches Routine.Modes (fillRoutine (ctx.inMode true) b)
      (fillRoutine (ctx.inMode false) b) := by
    unfold fillRoutine
    refine (matches_content plain named).bind fun _ _ code => ?_
    refine (Visit.matches_typeName b.part.type).bind_same fun typeName => ?_
    exact matches_pure (Routine.modes code b.routine _ none rfl false)
  exact filled.bind fun _ _ modes => matches_pure (.cons modes .nil)

theorem matches_helpers (plain : ctx.handlers = .none) :
    Matches (List.Forall₂ Routine.Modes) (helpers (ctx.inMode true)) (helpers (ctx.inMode false)) := by
  unfold helpers
  have known : Matches (fun bs bs' => bs = bs' ∧ ∀ b ∈ bs, b.part.Named)
      (Step.read (·.blueprints.values)) (Step.read (·.blueprints.values)) := by
    refine matches_read ?_
    rintro w _ ⟨rfl, named⟩
    exact ⟨rfl, named⟩
  refine known.bind fun bs _ ⟨same, named⟩ => ?_
  subst same
  exact matches_collect_same fun b member => matches_helper plain (named b member)

/-! ### Targets -/

theorem matches_partRoutines (plain : ctx.handlers = .none) (trees : graph.Named) {part : Part}
    (named : part.Named) :
    Matches (fun made made' => List.Forall₂ Routine.Modes (made.1 :: made.2) (made'.1 :: made'.2))
      (partRoutines (ctx.inMode true) graph (some part))
      (partRoutines (ctx.inMode false) graph (some part)) := by
  have entered : Matches Routine.Modes (partEntry (ctx.inMode true) graph part)
      (partEntry (ctx.inMode false) graph part) := by
    unfold partEntry
    refine Visit.matches_checkCancelled.bind_same fun _ => ?_
    refine (Visit.matches_register part.type).bind_same fun _ => ?_
    refine (Visit.matches_nextName part.type).bind_same fun name => ?_
    have own : Matches Eq (Visit.enter ⟨part, partName, fillName name⟩)
        (Visit.enter ⟨part, partName, fillName name⟩) := Visit.matches_enter named
    refine own.bind fun _ _ _ => ?_
    refine (matches_links partName part.hyperlinks part.externals).bind fun _ _ relations => ?_
    refine (matches_edges plain trees partName part.type part.children).bind fun _ _ below => ?_
    refine (Visit.matches_typeName part.type).bind_same fun typeName => ?_
    have gap : ModesAll (if part.children.isEmpty then [] else [.blank])
        (if part.children.isEmpty then [] else [.blank]) := by
      split
      · exact .nil
      · exact .cons modes_blank .nil
    have code := forall₂_append (forall₂_append
      (.cons (modes_fillCall partName (fillName name)) relations) gap) below
    exact matches_pure (Routine.modes code _ _ none rfl true)
  unfold partRoutines
  refine entered.bind fun entry entry' modes => ?_
  exact (matches_helpers plain).bind fun _ _ fills => matches_pure (.cons modes fills)

theorem modes_packageEntry (typeName streamTypeName create : String) :
    Routine.Modes (packageEntry typeName streamTypeName create)
      (packageEntry typeName streamTypeName create) := by
  refine Routine.modes (.cons (modes_same ?_) .nil) _ _ none rfl true
  refine fresh_scope ?_ ?_ ?_
  · exact List.forall_mem_singleton.mpr (fresh_of_walk rfl rfl)
  · refine List.forall_mem_cons.mpr ⟨fresh_of_walk rfl rfl, ?_⟩
    exact List.forall_mem_singleton.mpr (fresh_of_walk rfl rfl)
  · exact List.forall_mem_singleton.mpr (fresh_of_walk rfl rfl)

theorem matches_packageRoutines (plain : ctx.handlers = .none) (trees : graph.Named)
    (package : Package) :
    Matches (fun made made' => List.Forall₂ Routine.Modes (made.1 :: made.2) (made'.1 :: made'.2))
      (packageRoutines (ctx.inMode true) graph (some package))
      (packageRoutines (ctx.inMode false) graph (some package)) := by
  have entered : Matches (fun made made' => made.1.Modes made'.1 ∧ made.2.Modes made'.2)
      (packageEntries (ctx.inMode true) graph package)
      (packageEntries (ctx.inMode false) graph package) := by
    unfold packageEntries
    refine Visit.matches_checkCancelled.bind_same fun _ => ?_
    refine (Visit.matches_addPlain _).bind_same fun _ => ?_
    refine (Visit.matches_register package.type).bind_same fun _ => ?_
    refine (Visit.matches_typeName package.type).bind_same fun typeName => ?_
    refine (Visit.matches_typeName streamType).bind_same fun streamTypeName => ?_
    refine (matches_edges plain trees packageName package.type package.children).bind fun _ _ below => ?_
    refine (matches_links packageName package.hyperlinks package.externals).bind fun _ _ relations => ?_
    exact matches_pure ⟨modes_packageEntry _ _ _,
      Routine.modes (forall₂_append below relations) _ _ none rfl false⟩
  unfold packageRoutines
  refine entered.bind fun ⟨entry, parts⟩ ⟨entry', parts'⟩ ⟨modes, modes'⟩ => ?_
  exact (matches_helpers plain).bind fun _ _ fills => matches_pure (.cons modes (.cons modes' fills))

/-- The scripts of the two modes, or the failure that both have. -/
inductive SameEnd : Except Failure Script → Except Failure Script → Prop
  | ok {s s' : Script} (alike : s.Alike s')
      (fresh : ∀ r ∈ s.routines, ∀ i ∈ r.walk, i.reassigns = false) : SameEnd (.ok s) (.ok s')
  | error (e : Failure) : SameEnd (.error e) (.error e)

theorem sameEnd_script (shared : Shared) (typeName : String) {rs rs' : List Routine}
    (modes : List.Forall₂ Routine.Modes rs rs') :
    SameEnd (.ok (script (ctx.inMode true) shared typeName rs))
      (.ok (script (ctx.inMode false) shared typeName rs')) := by
  obtain ⟨fresh, alike⟩ := (List.forall₂_and_left rs rs').mp
    (modes.imp fun _ _ pair => ⟨pair.fresh, pair.alike⟩)
  exact .ok ⟨rfl, rfl, rfl, alike⟩ fresh

variable {cancelled : Bool}

theorem elementScript_sameEnd (plain : ctx.handlers = .none) {e : Element}
    (named : ∀ t ∈ e.types, t.name ≠ "") :
    SameEnd (elementScript (ctx.inMode true) cancelled (some e))
      (elementScript (ctx.inMode false) cancelled (some e)) := by
  have like : Build.Like ⟨.start cancelled, .empty⟩ ⟨.start cancelled, .empty⟩ :=
    ⟨rfl, Pools.full_empty, Pools.full_empty⟩
  have ends : Step.Ends Build.Like Outputs (root (ctx.inMode true) (some e) _)
    (root (ctx.inMode false) (some e) _) := matches_element plain e named [] _ _ like
  unfold elementScript
  dsimp only
  rcases ends.cases with ⟨out, out', w, w', ran, ran', outputs, like'⟩ | ⟨f, w, w', ran, ran'⟩
  · have returns : Expr.unnamedTarget (if out.name = "" then none else some (.var out.name)) =
        Expr.unnamedTarget (if out'.name = "" then none else some (.var out'.name)) := by
      by_cases empty : out.name = ""
      · rw [if_pos empty, if_pos (outputs.skipped.mp empty)]
      · rw [if_neg empty, if_neg fun empty' => empty (outputs.skipped.mpr empty')]
        rfl
    rw [ran, ran']
    dsimp only
    rw [like'.shared]
    exact sameEnd_script w'.shared e.type.name
      (.cons (Routine.modes outputs.code ("Build" ++ e.type.name) [] _ returns true) .nil)
  · rw [ran, ran']
    exact .error f

theorem like_start (shared : Shared) : Visit.Like (.start shared) (.start shared) := ⟨rfl, nofun⟩

theorem partScript_sameEnd (plain : ctx.handlers = .none) (trees : graph.Named) (uri : String) :
    SameEnd (partScript (ctx.inMode true) cancelled (some graph) uri)
      (partScript (ctx.inMode false) cancelled (some graph) uri) := by
  unfold partScript
  dsimp only
  cases found : graph.get? uri with
  | none => exact .error _
  | some part =>
    have named : part.Named := trees part (OrderedMap.mem_values_iff.mpr ⟨uri, found⟩)
    dsimp only
    rcases (matches_partRoutines plain trees named _ _ (like_start (.start cancelled))).cases with
      ⟨made, made', w, w', ran, ran', modes, like⟩ | ⟨f, w, w', ran, ran'⟩
    · rw [ran, ran', like.same]
      exact sameEnd_script w'.shared part.type.name modes
    · rw [ran, ran']
      exact .error f

theorem packageScript_sameEnd (plain : ctx.handlers = .none) {package : Package}
    (trees : package.graph.Named) :
    SameEnd (packageScript (ctx.inMode true) cancelled (some package))
      (packageScript (ctx.inMode false) cancelled (some package)) := by
  unfold packageScript
  dsimp only
  rcases (matches_packageRoutines plain trees package _ _ (like_start (.start cancelled))).cases with
    ⟨made, made', w, w', ran, ran', modes, like⟩ | ⟨f, w, w', ran, ran'⟩
  · rw [ran, ran', like.same]
    exact sameEnd_script w'.shared package.type.name modes
  · rw [ran, ran']
    exact .error f

/-- Whether every name is new or names are used again, a script comes out, or the same failure. The
two scripts differ only in the names of variables, and in that a new variable of the one may be a
variable of the other that is used again; the one never gives a new value to a variable. -/
theorem target_modes (plain : ctx.handlers = .none) {target : Target} (named : target.Named)
    (cancelled : Bool) :
    (∃ f, targetScript (ctx.inMode true) cancelled target = .error f ∧
      targetScript (ctx.inMode false) cancelled target = .error f) ∨
    ∃ s s', targetScript (ctx.inMode true) cancelled target = .ok s ∧
      targetScript (ctx.inMode false) cancelled target = .ok s' ∧ s.Alike s' ∧
      ∀ r ∈ s.routines, ∀ i ∈ r.walk, i.reassigns = false := by
  have ends : SameEnd (targetScript (ctx.inMode true) cancelled target)
      (targetScript (ctx.inMode false) cancelled target) := by
    cases target with
    | element e _ => exact elementScript_sameEnd plain named
    | part uri graph => exact partScript_sameEnd plain named uri
    | package p _ => exact packageScript_sameEnd plain named
  generalize targetScript (ctx.inMode true) cancelled target = first at ends
  generalize targetScript (ctx.inMode false) cancelled target = second at ends
  cases ends with
  | ok alike fresh => exact Or.inr ⟨_, _, rfl, rfl, alike, fresh⟩
  | error f => exact Or.inl ⟨f, rfl, rfl⟩

/-- Two children of one type; in the usual mode the second one has the variable of the first. -/
def repeated : Element :=
  { Element.ofType (letterType "A") with
    children := [.ofType (letterType "A1"), .ofType (letterType "A1")] }

theorem repeated_modes :
    ∃ s s', targetScript (letterContext.inMode true) false (.element repeated none) = .ok s ∧
      targetScript (letterContext.inMode false) false (.element repeated none) = .ok s' ∧
      s.Alike s' ∧ (∀ r ∈ s.routines, ∀ i ∈ r.walk, i.reassigns = false) ∧
      ∃ r ∈ s'.routines, ∃ i ∈ r.walk, i.reassigns = true := by
  have named : Target.Named (.element repeated none) := by
    have types : repeated.types = [letterType "A", letterType "A1", letterType "A1"] := by
      simp [repeated, Element.types, Element.typesAll, Element.ofType]
    change ∀ t ∈ repeated.types, t.name ≠ ""
    rw [types]
    decide
  have ends : (targetScript (letterContext.inMode false) false (.element repeated none)).map
      (fun s => s.routines.any fun r => r.walk.any (·.reassigns)) = .ok true := by
    cbv
  obtain ⟨s', ran', reuses⟩ := except_map_ok ends
  obtain ⟨r, inScript, reuses⟩ := List.any_eq_true.mp reuses
  have plain : letterContext.handlers = .none := rfl
  rcases target_modes plain named false with ⟨f, _, failed⟩ | ⟨s, s₂, ran, ran₂, alike, fresh⟩
  · rw [ran'] at failed
    cases failed
  · obtain rfl := Except.ok.inj (ran'.symm.trans ran₂)
    exact ⟨s, s', ran, ran', alike, fresh, r, inScript, List.any_eq_true.mp reuses⟩

end Compile

end DocScript
