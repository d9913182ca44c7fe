import Mathlib
import DocScript.Proofs.Element.Mentions
import DocScript.Proofs.Graph.Fill
import DocScript.Proofs.Graph.Traversal
import DocScript.Proofs.Script.Target

/-!
# Runs can be repeated

A run reads the alias of a namespace only after it has registered it. So all that it reads is what
the table at its end says: a second run from there, or from any table that has grown out of it, does
the same and registers nothing.
-/

namespace DocScript

open Compile

namespace Step

variable {σ α β : Type} {table : σ → Namespaces} {put : Namespaces → σ → σ} {inv : σ → Prop}
  {known new more : List String}

/-- What a step leaves that ended well: it did the same from a table that had all this before. -/
structure Settled (table : σ → Namespaces) (put : Namespaces → σ → σ) (inv : σ → Prop)
    (new : List String) (m : Step σ α) (s : σ) (a : α) (s' : σ) : Prop where
  sound : inv s'
  grows : table s ≤ table s'
  added : ∀ space ∈ new, (table s').contains space = true
  again : ∀ ns, table s' ≤ ns → m (put ns s) = (.ok a, put ns s')

/-- A step that needs some namespaces and adds new ones can be repeated. -/
def Settles (table : σ → Namespaces) (put : Namespaces → σ → σ) (inv : σ → Prop)
    (known new : List String) (m : Step σ α) : Prop :=
  ∀ s a s', inv s → (∀ space ∈ known, (table s).contains space = true) → m s = (.ok a, s') →
    Settled table put inv new m s a s'

theorem settles_pure (a : α) : Settles table put inv known [] (pure a : Step σ α) := by
  intro s b s' sound _ ran
  obtain ⟨rfl, rfl⟩ := pure_ok ran
  exact ⟨sound, Namespaces.le_refl _, nofun, fun _ _ => rfl⟩

theorem settles_fail (e : Failure) : Settles table put inv known new (fail e : Step σ α) :=
  fun _ _ _ _ _ ran => (fail_ok ran).elim

/-- A step that reads nothing from the table. -/
theorem settles_read {f : σ → α} (same : ∀ ns s, f (put ns s) = f s) :
    Settles table put inv known [] (read f) := by
  intro s a s' sound _ ran
  obtain ⟨value, rfl⟩ := Prod.mk.inj ran
  refine ⟨sound, Namespaces.le_refl _, nofun, fun ns _ => ?_⟩
  rw [← value]
  exact Prod.ext (congrArg Except.ok (same ns s)) rfl

theorem Settles.bind {m : Step σ α} {f : α → Step σ β} (first : Settles table put inv known new m)
    (next : ∀ a, Settles table put inv (new ++ known) more (f a)) :
    Settles table put inv known more (m >>= f) := by
  intro s b u sound old ran
  obtain ⟨a, t, ran₁, ran₂⟩ := bind_ok ran
  have start := first s a t sound old ran₁
  have old' : ∀ space ∈ new ++ known, (table t).contains space = true := by
    intro space member
    rcases List.mem_append.mp member with added | before
    · exact start.added space added
    · exact Namespaces.contains_of_le start.grows (old space before)
  have rest := next a t b u start.sound old' ran₂
  refine ⟨rest.sound, Namespaces.le_trans start.grows rest.grows, rest.added, fun ns le => ?_⟩
  rw [bind_eq, start.again ns (Namespaces.le_trans rest.grows le)]
  exact rest.again ns le

theorem settles_collect {f : α → Step σ (List β)} {as : List α}
    (each : ∀ a ∈ as, Settles table put inv known [] (f a)) :
    Settles table put inv known [] (collect f as) := by
  induction as with
  | nil => exact settles_pure []
  | cons a rest ih =>
    have others := ih fun b member => each b (List.mem_cons_of_mem a member)
    rw [collect_cons]
    exact (each a List.mem_cons_self).bind fun _ => others.bind fun _ => settles_pure _

end Step

open Step

/-! ### Relationships -/

namespace Namespaces

abbrev Settles {α : Type} (known new : List String) (m : Step Namespaces α) : Prop :=
  Step.Settles id (fun ns _ => ns) (fun _ => True) known new m

variable {known : List String} {policy : NamePolicy}

theorem settles_addPlain (space : String) :
    Namespaces.Settles known [space] (change (·.addPlain space)) := by
  intro ns u ns' _ _ ran
  obtain ⟨_, rfl⟩ := Prod.mk.inj ran
  refine ⟨trivial, le_addPlain ns space, fun other member => ?_, fun more le => ?_⟩
  · rw [List.mem_singleton.mp member]
    exact contains_addPlain ns space
  · have listed := contains_of_le le (contains_addPlain ns space)
    exact Prod.ext rfl (if_pos listed)

theorem settles_typeName {t : TypeId} (listed : t.space ∈ known) :
    Namespaces.Settles known [] (read (·.typeName policy t)) := by
  intro ns name ns' _ old ran
  obtain ⟨value, rfl⟩ := Prod.mk.inj ran
  refine ⟨trivial, le_refl ns, nofun, fun more le => ?_⟩
  rw [← value]
  exact Prod.ext (congrArg Except.ok (typeName_of_le policy le (old _ listed))) rfl

end Namespaces

namespace Compile

variable {known : List String} {policy : NamePolicy}

theorem settles_uriExpr (uri : String) : Namespaces.Settles known [] (uriExpr policy uri) := by
  unfold uriExpr
  refine (Namespaces.settles_addPlain uriType.space).bind fun _ => ?_
  split
  · exact settles_fail _
  · have own : uriType.space ∈ [uriType.space] ++ known := List.mem_cons_self
    have kind : uriKindType.space ∈ [uriType.space] ++ known := List.mem_cons_self
    refine (Namespaces.settles_typeName own).bind fun _ => ?_
    exact (Namespaces.settles_typeName kind).bind fun _ => settles_pure _

theorem settles_group {α : Type} {f : α → Step Namespaces (List Instr)}
    (each : ∀ a, Namespaces.Settles known [] (f a)) (links : List α) :
    Namespaces.Settles known [] (group f links) := by
  unfold group
  split
  · exact settles_pure []
  · exact (settles_collect fun a _ => each a).bind fun _ => settles_pure _

theorem settles_relationships (owner : String) (hyperlinks : List Hyperlink)
    (externals : List ExternalLink) :
    Namespaces.Settles known [] (relationships policy owner hyperlinks externals) := by
  have hyperlink (h : Hyperlink) :
      Namespaces.Settles known [] (hyperlink policy (.var owner) h) :=
    (settles_uriExpr h.uri).bind fun _ => settles_pure _
  have external (x : ExternalLink) :
      Namespaces.Settles known [] (externalLink policy (.var owner) x) :=
    (settles_uriExpr x.uri).bind fun _ => settles_pure _
  unfold relationships
  exact (settles_group hyperlink hyperlinks).bind fun _ =>
    (settles_group external externals).bind fun _ => settles_pure _

end Compile

/-! ### Elements -/

namespace Compile

variable {ctx : Context} {e : Element} {out : ElementOutput} {w w' : Workspace}

/-- A run for a tree that is built on its own can be repeated from any table that it leads to. -/
theorem root_again (plain : ctx.handlers = .none) {shared : Shared}
    (ran : root ctx (some e) ⟨shared, .empty⟩ = (.ok out, w')) {ns : Namespaces}
    (le : w'.shared.namespaces ≤ ns) :
    w'.shared.cancelled = false ∧
      ∃ w, root ctx (some e) ⟨⟨ns, false⟩, .empty⟩ = (.ok out, w) ∧ w.shared = ⟨ns, false⟩ := by
  have still (w w' : Workspace) (out : ElementOutput)
      (ran : root ctx (some e) w = (.ok out, w')) : w'.shared.cancelled = false := by
    have outcome := ends_element plain e [] w (element_running ran)
    rw [show element ctx [] e w = (.ok out, w') from ran] at outcome
    generalize fault ctx [] e = reason at outcome
    cases outcome
    assumption
  obtain ⟨_, clean⟩ := (element_ok_iff plain).mp ⟨out, w', ran⟩
  obtain ⟨out', w, ran'⟩ := (element_ok_iff plain (w := ⟨⟨ns, false⟩, .empty⟩)).mpr ⟨rfl, clean⟩
  have first : w'.shared.namespaces = Namespaces.performAll ctx.registry shared.namespaces
      (registrationsOf (elementMentions ctx e)) := performs_element plain e [] _ out w' ran
  have second : w.shared.namespaces = Namespaces.performAll ctx.registry ns
      (registrationsOf (elementMentions ctx e)) := performs_element plain e [] _ out' w ran'
  -- All that the second run registers is in the table already, so it writes with the same table.
  have kept : w.shared.namespaces = ns := by
    rw [second]
    rw [first] at le
    exact Namespaces.performAll_of_le le
  have written := (element_follows plain ns e [] ⟨shared, .empty⟩ out w' .empty
    (Pools.Tracks.empty _ _) ran le).2
  have written' := (element_follows plain ns e [] ⟨⟨ns, false⟩, .empty⟩ out' w .empty
    (Pools.Tracks.empty _ _) ran' (kept ▸ Namespaces.le_refl _)).2
  refine ⟨still _ w' out ran, w, ?_, ?_⟩
  · rw [written, ← written']
    exact ran'
  · have running := still _ w out' ran'
    rw [← kept, ← running]

end Compile

/-! ### Graphs -/

namespace PartWork

def put (ns : Namespaces) (w : PartWork) : PartWork :=
  { w with shared := { w.shared with namespaces := ns } }

/-- The work was not cancelled, and the types of all parts that were visited are registered. -/
structure Ready (w : PartWork) : Prop where
  running : w.shared.cancelled = false
  known : ∀ b ∈ w.blueprints.values, w.shared.namespaces.contains b.part.type.space = true

variable {w w' : PartWork}

theorem Ready.registers (ready : w.Ready) (h : w.Registers w') : w'.Ready := by
  refine ⟨h.cancelled.trans ready.running, fun b member => ?_⟩
  rw [h.blueprints] at member
  exact Namespaces.contains_of_le h.grows (ready.known b member)

theorem ready_start {shared : Shared} (running : shared.cancelled = false) :
    (PartWork.start shared).Ready := ⟨running, nofun⟩

end PartWork

namespace Visit

variable {α : Type} {ctx : Context} {t : TypeId} {known new : List String}

abbrev Settles (known new : List String) (m : Visit α) : Prop :=
  Step.Settles (·.shared.namespaces) PartWork.put PartWork.Ready known new m

theorem settles_onNamespaces {m : Step Namespaces α} (h : Namespaces.Settles known new m) :
    Visit.Settles known new (onNamespaces m) := by
  intro w a w' ready old ran
  obtain ⟨ns, made, rfl⟩ := onNamespaces_ok ran
  have settled := h w.shared.namespaces a ns trivial old made
  have frame : w.Registers { w with shared := { w.shared with namespaces := ns } } :=
    ⟨rfl, rfl, rfl, settled.grows⟩
  refine ⟨ready.registers frame, settled.grows, settled.added, fun more le => ?_⟩
  rw [onNamespaces_eq]
  have again := settled.again more le
  show ((m more).1, PartWork.put (m more).2 w) = _
  rw [again]
  rfl

theorem settles_register : Visit.Settles known [t.space] (register ctx t) := by
  intro w u w' ready _ ran
  obtain ⟨frame, listed⟩ := register_ok ran
  refine ⟨ready.registers frame, frame.grows, fun space member => ?_, fun ns le => ?_⟩
  · rw [List.mem_singleton.mp member]
    exact listed
  · obtain ⟨ns', changed, rfl⟩ := onNamespaces_ok ran
    obtain ⟨_, rfl⟩ := Prod.mk.inj changed
    have kept : ns.register ctx.registry t = ns :=
      Namespaces.register_of_contains t fun space member =>
        Namespaces.contains_of_le le (Namespaces.contains_register_of_mem _ _ member)
    show (Except.ok u, PartWork.put (ns.register ctx.registry t) w) = _
    rw [kept]
    rfl

theorem settles_addPlain (space : String) : Visit.Settles known [space] (addPlain space) :=
  settles_onNamespaces (Namespaces.settles_addPlain space)

theorem settles_typeName (listed : t.space ∈ known) : Visit.Settles known [] (typeName ctx t) := by
  intro w name w' ready old ran
  obtain ⟨value, rfl⟩ := Prod.mk.inj ran
  refine ⟨ready, Namespaces.le_refl _, nofun, fun ns le => ?_⟩
  have same := Namespaces.typeName_of_le ctx.settings.policy le (old _ listed)
  rw [← value]
  exact Prod.ext (congrArg Except.ok same) rfl

theorem settles_checkCancelled : Visit.Settles known [] checkCancelled := by
  intro w u w' ready _ ran
  obtain ⟨running, rfl⟩ := checkCancelled_ok ran
  refine ⟨ready, Namespaces.le_refl _, nofun, fun ns _ => ?_⟩
  have running' : (PartWork.put ns w').shared.cancelled = false := running
  simp [checkCancelled, running']

/-- The name of a variable reads the alias of the namespace of its type. -/
theorem settles_nextName (listed : t.space ∈ known) : Visit.Settles known [] (nextName t) := by
  intro w name w' ready old ran
  obtain ⟨value, rfl⟩ := Prod.mk.inj ran
  refine ⟨⟨ready.running, ready.known⟩, Namespaces.le_refl _, nofun, fun ns le => ?_⟩
  have same : ns.aliasOf t.space = w.shared.namespaces.aliasOf t.space :=
    Namespaces.aliasOf_of_le le (old _ listed)
  rw [← value]
  simp only [nextName, act, PartWork.put, same]
  rfl

theorem settles_enter {b : Blueprint} (listed : b.part.type.space ∈ known) :
    Visit.Settles known [] (enter b) := by
  intro w u w' ready old ran
  obtain ⟨fresh, rfl⟩ := enter_ok ran
  refine ⟨⟨ready.running, fun c member => ?_⟩, Namespaces.le_refl _, nofun, fun ns _ => ?_⟩
  · obtain ⟨uri, found⟩ := OrderedMap.mem_values_iff.mp member
    rw [OrderedMap.get?_insert] at found
    split at found
    · obtain rfl := Option.some.inj found
      exact old _ listed
    · exact ready.known c (OrderedMap.mem_values_iff.mpr ⟨uri, found⟩)
  · have unknown : (PartWork.put ns w).blueprints.contains b.part.uri = false := by
      simp [PartWork.put, OrderedMap.contains, fresh]
    simp [enter, unknown]
    rfl

end Visit

namespace Compile

open Visit

variable {ctx : Context} {graph : Graph} {parent owner name : String} {parentType : TypeId}
  {part : Part} {known : List String}

theorem settles_links {hyperlinks : List Hyperlink} {externals : List ExternalLink} :
    Visit.Settles known [] (links ctx owner hyperlinks externals) :=
  settles_onNamespaces (settles_relationships owner hyperlinks externals)

theorem settles_partCreation {e : Edge} (listed : part.type.space ∈ known) :
    Visit.Settles known [] (partCreation ctx parent parentType e part name) := by
  unfold partCreation
  refine (settles_typeName listed).bind fun _ => ?_
  dsimp only
  split <;> exact settles_pure _

theorem settles_newPart {e : Edge} :
    Visit.Settles known [] (newPart ctx parent parentType e part) := by
  have listed : part.type.space ∈ [part.type.space] ++ known := List.mem_cons_self
  unfold newPart
  refine settles_register.bind fun _ => (settles_nextName listed).bind fun name => ?_
  refine (settles_partCreation listed).bind fun creation => ?_
  refine (settles_enter listed).bind fun _ => ?_
  exact settles_links.bind fun _ => settles_pure _

theorem settles_edge (plain : ctx.handlers = .none) (fuel : Nat) :
    ∀ parent parentType e, Visit.Settles known [] (edge ctx graph fuel parent parentType e) := by
  induction fuel with
  | zero =>
    intro parent parentType e
    rw [edge]
    exact settles_pure []
  | succ fuel ih =>
    intro parent parentType e
    rw [edge]
    refine settles_checkCancelled.bind fun _ => ?_
    split
    · exact settles_fail _
    · next part _ =>
      have looked : Visit.Settles ([] ++ known) []
          (Step.read fun w : PartWork => w.blueprints.get? part.uri) := settles_read fun _ _ => rfl
      rw [handledEdge_eq plain, Step.pure_then]
      refine looked.bind fun entered => ?_
      split
      · exact settles_pure _
      · refine settles_newPart.bind fun made => ?_
        exact (settles_collect fun e _ => ih made.2 _ e).bind fun _ => settles_pure _

theorem settles_payloadFeed (bytes : List UInt8) :
    Visit.Settles known [] (payloadFeed ctx bytes) := by
  unfold payloadFeed
  refine (settles_addPlain convertType.space).bind fun _ => ?_
  refine (settles_addPlain streamType.space).bind fun _ => ?_
  refine (settles_typeName (by simp)).bind fun _ => ?_
  refine (settles_typeName (by simp)).bind fun _ => ?_
  exact (settles_typeName (by simp [memoryStreamType, streamType, TypeId.plain])).bind fun _ =>
    settles_pure _

/-- The elements of a part share no names with anything else. -/
theorem settles_buildAlone (plain : ctx.handlers = .none) (e : Element) :
    Visit.Settles known [] (buildAlone (root ctx (some e))) := by
  intro w out w' ready _ ran
  obtain ⟨workspace, built, rfl⟩ := buildAlone_ok ran
  have grown : w.shared.namespaces ≤ workspace.shared.namespaces :=
    (extends_element plain e []).le built
  have running := (root_again plain built (Namespaces.le_refl _)).1
  refine ⟨⟨running, fun b member => ?_⟩, grown, nofun, fun ns le => ?_⟩
  · exact Namespaces.contains_of_le grown (ready.known b member)
  · obtain ⟨_, w₂, again, kept⟩ := root_again plain built le
    simp only [buildAlone, PartWork.put, ready.running, again, kept, running]

theorem settles_content (plain : ctx.handlers = .none) :
    Visit.Settles known [] (content ctx part) := by
  unfold content
  split
  · exact settles_pure _
  · exact settles_payloadFeed _
  · refine (settles_buildAlone plain _).bind fun out => ?_
    split
    · exact settles_pure _
    · exact settles_fail _

theorem settles_helper (plain : ctx.handlers = .none) {b : Blueprint}
    (listed : b.part.type.space ∈ known) : Visit.Settles known [] (helper ctx b) := by
  have filled : Visit.Settles known [] (fillRoutine ctx b) :=
    (settles_content plain).bind fun _ => (settles_typeName listed).bind fun _ => settles_pure _
  unfold helper
  rw [handledRoutine_eq plain, Step.pure_then]
  exact settles_checkCancelled.bind fun _ => filled.bind fun _ => settles_pure _

/-- Every part that was visited has its type registered, which its routine has as a parameter. -/
theorem settles_helpers (plain : ctx.handlers = .none) : Visit.Settles [] [] (helpers ctx) := by
  intro w rs w' ready _ ran
  have values : Visit.Settles (w.blueprints.values.map (·.part.type.space)) []
      (Step.collect (helper ctx) w.blueprints.values) :=
    settles_collect fun b member => settles_helper plain (List.mem_map.mpr ⟨b, member, rfl⟩)
  have old : ∀ space ∈ w.blueprints.values.map (·.part.type.space),
      w.shared.namespaces.contains space = true := by
    intro space member
    obtain ⟨b, visited, rfl⟩ := List.mem_map.mp member
    exact ready.known b visited
  have settled := values w rs w' ready old ran
  exact ⟨settled.sound, settled.grows, settled.added, settled.again⟩

theorem settles_partEntry (plain : ctx.handlers = .none) :
    Visit.Settles [] [] (partEntry ctx graph part) := by
  have listed : part.type.space ∈ [part.type.space] ++ [] := List.mem_cons_self
  unfold partEntry
  refine settles_checkCancelled.bind fun _ => settles_register.bind fun _ => ?_
  refine (settles_nextName listed).bind fun _ => (settles_enter listed).bind fun _ => ?_
  refine settles_links.bind fun _ => ?_
  refine (settles_collect fun e _ => settles_edge plain _ _ _ e).bind fun _ => ?_
  exact (settles_typeName listed).bind fun _ => settles_pure _

theorem settles_packageEntries (plain : ctx.handlers = .none) (package : Package) :
    Visit.Settles [] [] (packageEntries ctx graph package) := by
  unfold packageEntries
  refine settles_checkCancelled.bind fun _ => (settles_addPlain streamType.space).bind fun _ => ?_
  refine settles_register.bind fun _ => (settles_typeName (by simp)).bind fun _ => ?_
  refine (settles_typeName (by simp)).bind fun _ => ?_
  refine (settles_collect fun e _ => settles_edge plain _ _ _ e).bind fun _ => ?_
  exact settles_links.bind fun _ => settles_pure _

theorem settles_partRoutines (plain : ctx.handlers = .none) :
    Visit.Settles [] [] (partRoutines ctx graph (some part)) :=
  (settles_partEntry plain).bind fun _ => (settles_helpers plain).bind fun _ => settles_pure _

theorem settles_packageRoutines (plain : ctx.handlers = .none) (package : Package) :
    Visit.Settles [] [] (packageRoutines ctx graph (some package)) :=
  (settles_packageEntries plain package).bind fun _ =>
    (settles_helpers plain).bind fun _ => settles_pure _

/-! ### Whole runs -/

theorem partEntry_running {w w' : PartWork} {r : Routine}
    (ran : partEntry ctx graph part w = (.ok r, w')) : w.shared.cancelled = false := by
  obtain ⟨_, u, checked, _⟩ := Step.bind_ok ran
  exact (Visit.checkCancelled_ok checked).1

theorem packageEntries_running {package : Package} {w w' : PartWork} {rs : Routine × Routine}
    (ran : packageEntries ctx graph package w = (.ok rs, w')) : w.shared.cancelled = false := by
  obtain ⟨_, u, checked, _⟩ := Step.bind_ok ran
  exact (Visit.checkCancelled_ok checked).1

/-- A run from the start of a graph that can be repeated leaves what it needs to be repeated. -/
theorem starts_again {α : Type} {m : Visit α} {a : α} {shared : Shared} {w : PartWork}
    (settles : Visit.Settles [] [] m) (running : shared.cancelled = false)
    (ran : m (.start shared) = (.ok a, w)) :
    ∃ w', m (.start w.shared) = (.ok a, w') ∧ w'.shared = w.shared := by
  have settled := settles (.start shared) a w (PartWork.ready_start running) nofun ran
  have again := settled.again w.shared.namespaces (Namespaces.le_refl _)
  have start : PartWork.put w.shared.namespaces (.start shared) = .start w.shared := by
    have same : (⟨w.shared.namespaces, shared.cancelled⟩ : Shared) = w.shared := by
      rw [running, ← settled.sound.running]
    exact congrArg PartWork.start same
  rw [start] at again
  exact ⟨_, again, rfl⟩

/-- A run without handlers that ends well can be repeated where it ended: with new pools of names,
and with nothing of the graph visited, it gives the same and registers nothing. -/
theorem runs_again (plain : ctx.handlers = .none) (shared : Shared) :
    (∀ e out w, root ctx e ⟨shared, .empty⟩ = (.ok out, w) →
      ∃ w', root ctx e ⟨w.shared, .empty⟩ = (.ok out, w') ∧ w'.shared = w.shared) ∧
    (∀ graph part result w, partRoutines ctx graph part (.start shared) = (.ok result, w) →
      ∃ w', partRoutines ctx graph part (.start w.shared) = (.ok result, w') ∧
        w'.shared = w.shared) ∧
    ∀ graph package result w, packageRoutines ctx graph package (.start shared) = (.ok result, w) →
      ∃ w', packageRoutines ctx graph package (.start w.shared) = (.ok result, w') ∧
        w'.shared = w.shared := by
  refine ⟨fun e out w ran => ?_, fun graph part result w ran => ?_, fun graph package result w ran => ?_⟩
  · cases e with
    | none => exact (Step.fail_ok ran).elim
    | some e =>
      obtain ⟨running, w', again, kept⟩ := root_again plain ran (Namespaces.le_refl _)
      have same : (⟨w.shared.namespaces, false⟩ : Shared) = w.shared := by rw [← running]
      rw [same] at again kept
      exact ⟨w', again, kept⟩
  · cases part with
    | none => exact (Step.fail_ok ran).elim
    | some part =>
      obtain ⟨entry, u, entered, _⟩ := Step.bind_ok ran
      exact starts_again (settles_partRoutines plain) (partEntry_running entered) ran
  · cases package with
    | none => exact (Step.fail_ok ran).elim
    | some package =>
      obtain ⟨entries, u, entered, _⟩ := Step.bind_ok ran
      exact starts_again (settles_packageRoutines plain package) (packageEntries_running entered) ran

/-- Two types of elements with one name. -/
def twins : Registry :=
  let types : List TypeId := [.plain "N" "A", .plain "M" "A"]
  ⟨.ofList (types.map fun t => (t, ⟨⟨t, .regular, none, [], ""⟩, [], [], []⟩)),
    .empty, .empty, .empty, types, Schema.standardRawKind, .standard⟩

def twinsContext : Context := ⟨.standard, twins, .none⟩

def twinInTwin : Element :=
  { Element.ofType (.plain "N" "A") with children := [.ofType (.plain "M" "A")] }

set_option maxRecDepth 4000 in
/-- The alias of the inner type is made during the first run, which names a variable with it. -/
theorem twins_again :
    (∃ out w, root twinsContext (some twinInTwin) ⟨.start false, .empty⟩ = (.ok out, w) ∧
      w.shared.namespaces.aliasOf "M" = "M" ∧ Instr.declaredIn out.instructions = ["a", "mA"] ∧
      ∃ w', root twinsContext (some twinInTwin) ⟨w.shared, .empty⟩ = (.ok out, w') ∧
        w'.shared = w.shared) ∧
    ∃ result w, partRoutines twinsContext ring (some ringStart) (.start (.start false)) =
        (.ok result, w) ∧
      ∃ w', partRoutines twinsContext ring (some ringStart) (.start w.shared) = (.ok result, w') ∧
        w'.shared = w.shared := by
  have plain : twinsContext.handlers = .none := rfl
  obtain ⟨elements, parts, _⟩ := runs_again plain (.start false)
  constructor
  · have ends : (root twinsContext (some twinInTwin) ⟨.start false, .empty⟩).1.map
        (fun out => Instr.declaredIn out.instructions) = .ok ["a", "mA"] := by
      cbv
    have table : (root twinsContext (some twinInTwin)
        ⟨.start false, .empty⟩).2.shared.namespaces.aliasOf "M" = "M" := by
      cbv
    obtain ⟨out, ok, names⟩ := except_map_ok ends
    have ran : root twinsContext (some twinInTwin) ⟨.start false, .empty⟩ = (.ok out, _) :=
      Prod.ext ok rfl
    exact ⟨out, _, ran, table, names, elements _ out _ ran⟩
  · obtain ⟨result, w, ran⟩ : ∃ result w, partRoutines twinsContext ring (some ringStart)
        (.start (.start false)) = (.ok result, w) :=
      Step.exists_ok (by cbv)
    exact ⟨result, w, ran, parts ring _ result w ran⟩

end Compile

end DocScript
