import DocScript.Proofs.Element.Run
import DocScript.Proofs.Graph.Visit
import DocScript.Proofs.Script.Requests

/-!
# Nobody is asked after a cancellation

A run looks whether it was cancelled before each request of a handler, and only handlers cancel it.
So the log of a run is prompt: handlers are asked only while it goes on.
-/

namespace DocScript

open Compile Logged

/-- Handlers are asked only while the run is not cancelled, as it is left by the one before. -/
inductive Prompt : Bool → List Event → Bool → Prop where
  | done (cancelled : Bool) : Prompt cancelled [] cancelled
  | enters {before after : Bool} (e : Element) {log : List Event} (rest : Prompt before log after) :
      Prompt before (.enters e :: log) after
  | asks {left after : Bool} (subject : Subject) (used : Bool) {log : List Event}
      (rest : Prompt left log after) : Prompt false (.asks subject false left used :: log) after

/-- Nobody is asked of a run that was cancelled. -/
def Heeded (log : List Event) : Prop :=
  ∀ earlier subject before after used later,
    log = earlier ++ .asks subject before after used :: later →
      before = false ∧ (after = true → ∀ event ∈ later, event.isAsk = false)

namespace Prompt

variable {before middle after : Bool} {log more : List Event}

theorem append (first : Prompt before log middle) (next : Prompt middle more after) :
    Prompt before (log ++ more) after := by
  induction first with
  | done _ => exact next
  | enters e _ ih => exact enters e (ih next)
  | asks subject used _ ih => exact asks subject used (ih next)

theorem stopped (h : Prompt true log after) : after = true ∧ ∀ event ∈ log, event.isAsk = false := by
  generalize start : true = c at h
  induction h with
  | done c => subst start; exact ⟨rfl, nofun⟩
  | enters e _ ih =>
    obtain ⟨ends, silent⟩ := ih start
    refine ⟨ends, fun event member => ?_⟩
    rcases List.mem_cons.mp member with rfl | later
    · rfl
    · exact silent event later
  | asks _ _ _ _ => cases start

theorem heeded (h : Prompt before log after) : Heeded log := by
  intro earlier subject b a used later whole
  induction h generalizing earlier with
  | done _ => cases earlier <;> cases whole
  | enters e _ ih =>
    cases earlier with
    | nil => cases whole
    | cons _ rest => exact ih rest (List.cons.inj whole).2
  | asks _ _ rest ih =>
    cases earlier with
    | cons _ others => exact ih others (List.cons.inj whole).2
    | nil =>
      obtain ⟨event, tail⟩ := List.cons.inj whole
      cases event
      subst tail
      refine ⟨rfl, fun cancelled => ?_⟩
      subst cancelled
      exact (stopped rest).2

theorem cancels (h : Prompt before log after) {event : Event} (member : event ∈ log)
    (cancels : event.cancels = true) : after = true := by
  induction h with
  | done _ => cases member
  | enters e _ ih =>
    rcases List.mem_cons.mp member with rfl | later
    · cases cancels
    · exact ih later
  | asks _ _ rest ih =>
    rcases List.mem_cons.mp member with rfl | later
    · change _ = true at cancels
      subst cancels
      exact (stopped rest).1
    · exact ih later

end Prompt

/-! ### Steps that do not cancel -/

namespace Build

variable {ctx : Context} {α : Type} {c : Bool}

abbrev Keeps (c : Bool) (m : Build α) : Prop := Step.Preserves (·.shared.cancelled = c) m

theorem keeps_onNamespaces (f : Namespaces → Namespaces) : Keeps c (onNamespaces f) :=
  fun _ holds => holds

theorem keeps_register (t : TypeId) : Keeps c (register ctx t) := keeps_onNamespaces _

theorem keeps_typeName (t : TypeId) : Keeps c (typeName ctx t) := Step.preserves_read _

theorem keeps_acquire (t : TypeId) : Keeps c (acquire ctx t) := fun _ holds => holds

theorem keeps_release (t : TypeId) (name : String) : Keeps c (release t name) :=
  fun _ holds => holds

theorem keeps_declare (t : TypeId) (value : Expr) : Keeps c (declare ctx t value) := by
  unfold declare
  refine (keeps_acquire t).bind fun ⟨name, existing⟩ => ?_
  cases existing with
  | true => exact Step.preserves_pure _
  | false => exact (keeps_typeName t).bind fun _ => Step.preserves_pure _

theorem keeps_checkCancelled : Keeps c checkCancelled := by
  intro w holds
  unfold checkCancelled
  split <;> exact holds

theorem keeps_creation (e : Element) (spec : ElementSpec) (path : List String) :
    Keeps c (creation ctx e spec path) := by
  unfold creation
  refine (keeps_typeName e.type).bind fun _ => ?_
  split
  · exact Step.preserves_pure _
  · exact Step.preserves_pure _
  · exact Step.preserves_pure _
  · dsimp only
    split
    · exact Step.preserves_fail _
    · refine (keeps_onNamespaces _).bind fun _ => ?_
      exact (keeps_typeName _).bind fun _ => Step.preserves_pure _

theorem keeps_complexValue (e : Element) (property : String × TypeId) :
    Keeps c (complexValue ctx e property) := by
  unfold complexValue
  split
  · exact Step.preserves_pure _
  · refine (keeps_onNamespaces _).bind fun _ => (keeps_typeName _).bind fun _ => ?_
    exact (keeps_declare _ _).bind fun _ => Step.preserves_pure _

theorem keeps_markupBag (e : Element) : Keeps c (markupBag ctx e) := by
  unfold markupBag
  split
  · exact Step.preserves_pure _
  · refine (keeps_onNamespaces _).bind fun _ => (keeps_typeName _).bind fun _ => ?_
    exact (keeps_declare _ _).bind fun _ => Step.preserves_pure _

theorem keeps_momentExpr (m : Calendar.Moment) : Keeps c (momentExpr ctx m) := by
  unfold momentExpr
  refine (keeps_onNamespaces _).bind fun _ => (keeps_typeName _).bind fun _ => ?_
  split
  · exact Step.preserves_fail _
  · exact (keeps_typeName _).bind fun _ => Step.preserves_pure _

theorem keeps_simpleProperty (e : Element) (name : String) (property : String × Primitive) :
    Keeps c (simpleProperty ctx e name property) := by
  unfold simpleProperty
  split
  · exact Step.preserves_pure _
  · split
    · exact Step.preserves_pure _
    · exact Step.preserves_pure _
    · exact (keeps_momentExpr _).bind fun _ => Step.preserves_pure _

theorem keeps_wire (name : String) (w : Wire) : Keeps c (wire name w) :=
  (keeps_release _ _).bind fun _ => Step.preserves_pure _

theorem keeps_enumProperty (e : Element) (name : String) (property : String × EnumSpec) :
    Keeps c (enumProperty ctx e name property) := by
  unfold enumProperty
  split
  · exact Step.preserves_pure _
  · refine (keeps_onNamespaces _).bind fun _ => (keeps_typeName _).bind fun _ => ?_
    split <;> exact Step.preserves_pure _

theorem keeps_elementHead (e : Element) (r : ResolvedElement) (path : List String) :
    Keeps c (elementHead ctx e r path) := by
  unfold elementHead
  refine (Step.preserves_collect fun p _ => keeps_complexValue e p).bind fun values => ?_
  refine (keeps_markupBag e).bind fun bag => (keeps_creation e r.spec path).bind fun value => ?_
  refine (keeps_declare e.type value).bind fun made => ?_
  refine (Step.preserves_collect fun p _ => keeps_simpleProperty e _ p).bind fun _ => ?_
  refine (Step.preserves_collect fun w _ => keeps_wire _ w).bind fun _ => ?_
  exact (Step.preserves_collect fun p _ => keeps_enumProperty e _ p).bind fun _ =>
    Step.preserves_pure _

end Build

namespace Visit

variable {ctx : Context} {α : Type} {P : PartWork → Prop}

/-- What the work on parts does besides asking handlers cannot change whether this holds. -/
structure Blind (P : PartWork → Prop) : Prop where
  namespaces : ∀ w ns, P w → P { w with shared := { w.shared with namespaces := ns } }
  tally : ∀ w tally, P w → P { w with tally }
  blueprints : ∀ w (b : Blueprint), P w →
    P { w with blueprints := w.blueprints.insert b.part.uri b }

theorem blind_cancelled (c : Bool) : Blind (·.shared.cancelled = c) where
  namespaces _ _ holds := holds
  tally _ _ holds := holds
  blueprints _ _ holds := holds

/-- Some part was visited. -/
def Started (w : PartWork) : Prop := ∃ uri b, w.blueprints.get? uri = some b

theorem blind_started : Blind Started where
  namespaces _ _ holds := holds
  tally _ _ holds := holds
  blueprints _ b _ := ⟨b.part.uri, b, OrderedMap.get?_insert_self _ _ _⟩

theorem preserves_onNamespaces (blind : Blind P) (m : Step Namespaces α) :
    Step.Preserves P (onNamespaces m) := fun w holds => blind.namespaces w _ holds

theorem preserves_typeName (t : TypeId) : Step.Preserves P (typeName ctx t) :=
  Step.preserves_read _

theorem preserves_nextName (blind : Blind P) (t : TypeId) : Step.Preserves P (nextName t) :=
  fun w holds => blind.tally w _ holds

theorem preserves_enter (blind : Blind P) (b : Blueprint) : Step.Preserves P (enter b) := by
  intro w holds
  unfold enter
  split
  · exact holds
  · exact blind.blueprints w b holds

theorem preserves_checkCancelled : Step.Preserves P checkCancelled := by
  intro w holds
  unfold checkCancelled
  split <;> exact holds

theorem preserves_partCreation {parent : String} {parentType : TypeId} {e : Edge} {part : Part}
    {name : String} : Step.Preserves P (partCreation ctx parent parentType e part name) := by
  unfold partCreation
  refine (preserves_typeName _).bind fun _ => ?_
  split <;> exact Step.preserves_pure _

theorem preserves_newPart (blind : Blind P) (parent : String) (parentType : TypeId) (e : Edge)
    (part : Part) : Step.Preserves P (newPart ctx parent parentType e part) := by
  unfold newPart
  refine (preserves_onNamespaces blind _).bind fun _ => (preserves_nextName blind _).bind fun _ => ?_
  refine preserves_partCreation.bind fun _ => (preserves_enter blind _).bind fun _ => ?_
  exact (preserves_onNamespaces blind _).bind fun _ => Step.preserves_pure _

theorem preserves_payloadFeed (blind : Blind P) (bytes : List UInt8) :
    Step.Preserves P (payloadFeed ctx bytes) := by
  unfold payloadFeed
  refine (preserves_onNamespaces blind _).bind fun _ => ?_
  refine (preserves_onNamespaces blind _).bind fun _ => (preserves_typeName _).bind fun _ => ?_
  refine (preserves_typeName _).bind fun _ => ?_
  exact (preserves_typeName _).bind fun _ => Step.preserves_pure _

end Visit

namespace Told

variable {ctx : Context} {graph : Graph} {σ α β : Type} {cancelled : σ → Bool}

/-- What happened between two states is prompt. -/
def Between (cancelled : σ → Bool) (s : σ) (log : List Event) (t : σ) : Prop :=
  Prompt (cancelled s) log (cancelled t)

abbrev PromptFrom (cancelled : σ → Bool) (m : Told σ α) (s : σ) : Prop :=
  Obeys (Between cancelled) m s

theorem promptFrom_pure (a : α) (s : σ) : PromptFrom cancelled (pure a : Told σ α) s :=
  Prompt.done _

theorem promptFrom_quiet {m : Step σ α} (keeps : ∀ c, Step.Preserves (cancelled · = c) m) (s : σ) :
    PromptFrom cancelled (quiet m) s := by
  show Prompt (cancelled s) [] (cancelled (m s).2)
  rw [keeps (cancelled s) s rfl]
  exact Prompt.done _

theorem promptFrom_bind {m : Told σ α} {f : α → Told σ β} {s : σ} (first : PromptFrom cancelled m s)
    (next : ∀ a t, m.run s = (.ok a, t) → PromptFrom cancelled (f a) t) :
    PromptFrom cancelled (m >>= f) s :=
  Obeys.bind (fun earlier later => earlier.append later) first next

theorem after_quiet {m : Step σ α} {f : α → Told σ β} {s : σ}
    (keeps : ∀ c, Step.Preserves (cancelled · = c) m)
    (next : ∀ a t, m s = (.ok a, t) → PromptFrom cancelled (f a) t) :
    PromptFrom cancelled (quiet m >>= f) s :=
  promptFrom_bind (promptFrom_quiet keeps s) next

theorem promptFrom_collect {f : α → Told σ (List β)} {as : List α}
    (each : ∀ a ∈ as, ∀ s, PromptFrom cancelled (f a) s) (s : σ) :
    PromptFrom cancelled (Logged.collect f as) s := by
  refine obeys_collect (fun s => Prompt.done (cancelled s)) ?_ each s
  intro _ _ _ _ _ first next
  exact first.append next

theorem promptFrom_asking {subject : Subject} {handler : σ → Option α × σ} {counts : α → Bool}
    {s : σ} (running : cancelled s = false) :
    PromptFrom cancelled (asking cancelled subject handler counts) s := by
  show Prompt (cancelled s) [.asks subject (cancelled s) (cancelled (handler s).2) _] _
  rw [running]
  exact Prompt.asks subject _ (Prompt.done _)

/-! ### Elements -/

theorem prompt_handled {e : Element} {w : Workspace} (running : w.shared.cancelled = false) :
    PromptFrom (·.shared.cancelled) (handled ctx e) w := by
  unfold handled
  split
  · exact promptFrom_pure none w
  · exact promptFrom_asking running

mutual

theorem prompt_element : ∀ (e : Element) (path : List String) (w : Workspace),
    PromptFrom (·.shared.cancelled) (element ctx path e) w
  | ⟨type, children, _, _, _, _, _, _⟩, path, w => by
    have below (name : String) := prompt_elements children (path ++ [type.name]) name
    unfold element
    refine promptFrom_bind (Prompt.enters _ (Prompt.done _)) fun _ w₁ _ => ?_
    refine after_quiet (fun _ => Build.keeps_checkCancelled) fun _ w₂ looked => ?_
    obtain ⟨running, rfl⟩ := Build.checkCancelled_ok looked
    dsimp only
    split
    · exact promptFrom_pure _ w₁
    · refine promptFrom_bind (prompt_handled running) fun given w₃ _ => ?_
      split
      · exact promptFrom_pure _ w₃
      · split
        · exact promptFrom_quiet (fun _ => Step.preserves_fail _) w₃
        · next r _ =>
          refine after_quiet (fun _ => Build.keeps_onNamespaces _) fun _ w₄ _ => ?_
          split
          · refine after_quiet (fun _ => Build.keeps_creation _ _ _) fun value w₅ _ => ?_
            refine after_quiet (fun _ => Build.keeps_declare _ _) fun made w₆ _ => ?_
            exact after_quiet (fun _ => Build.keeps_release _ _) fun _ w₇ _ => promptFrom_pure _ w₇
          · refine after_quiet (fun _ => Build.keeps_elementHead _ _ _) fun head w₅ _ => ?_
            refine after_quiet (fun _ => Build.keeps_checkCancelled) fun _ w₆ _ => ?_
            refine promptFrom_bind (below head.2 w₆) fun body w₇ _ => ?_
            exact after_quiet (fun _ => Build.keeps_release _ _) fun _ w₈ _ => promptFrom_pure _ w₈

theorem prompt_elements : ∀ (es : List Element) (path : List String) (name : String) (w : Workspace),
    PromptFrom (·.shared.cancelled) (elements ctx path name es) w
  | [], path, name, w => promptFrom_pure [] w
  | child :: rest, path, name, w => by
    have first := prompt_element child path
    have others := prompt_elements rest path name
    unfold elements
    split
    · exact others w
    · refine promptFrom_bind (first w) fun _ w₁ _ => ?_
      exact promptFrom_bind (others w₁) fun _ w₂ _ => promptFrom_pure _ w₂

end

theorem prompt_root (e : Option Element) (w : Workspace) :
    PromptFrom (·.shared.cancelled) (root ctx e) w := by
  cases e with
  | none => exact promptFrom_quiet (fun _ => Step.preserves_fail _) w
  | some e => exact prompt_element e [] w

/-! ### Parts -/

theorem promptFrom_visit {α : Type} {m : Visit α}
    (preserves : ∀ {P : PartWork → Prop}, Visit.Blind P → Step.Preserves P m) (w : PartWork) :
    PromptFrom (·.shared.cancelled) (quiet m) w :=
  promptFrom_quiet (fun c => preserves (Visit.blind_cancelled c)) w

theorem after_visit {α β : Type} {m : Visit α} {f : α → Told PartWork β} {w : PartWork}
    (preserves : ∀ {P : PartWork → Prop}, Visit.Blind P → Step.Preserves P m)
    (next : ∀ a t, m w = (.ok a, t) → PromptFrom (·.shared.cancelled) (f a) t) :
    PromptFrom (·.shared.cancelled) (quiet m >>= f) w :=
  promptFrom_bind (promptFrom_visit preserves w) next

theorem prompt_handledEdge {parent : String} {e : Edge} {part : Part} {w : PartWork}
    (running : w.shared.cancelled = false) :
    PromptFrom (·.shared.cancelled) (handledEdge ctx parent e part) w := by
  unfold handledEdge
  split
  · exact promptFrom_pure none w
  · exact promptFrom_asking running

theorem prompt_handledRoutine {b : Blueprint} {w : PartWork}
    (running : w.shared.cancelled = false) :
    PromptFrom (·.shared.cancelled) (handledRoutine ctx b) w := by
  unfold handledRoutine
  split
  · exact promptFrom_pure none w
  · exact promptFrom_asking running

theorem prompt_edge : ∀ (fuel : Nat) (parent : String) (parentType : TypeId) (e : Edge)
    (w : PartWork), PromptFrom (·.shared.cancelled) (edge ctx graph fuel parent parentType e) w := by
  intro fuel
  induction fuel with
  | zero => intro _ _ _ w; exact promptFrom_pure [] w
  | succ fuel deeper =>
    intro parent parentType e w
    unfold edge
    refine after_visit (fun _ => Visit.preserves_checkCancelled) fun _ w₁ ran => ?_
    obtain ⟨running, rfl⟩ := Visit.checkCancelled_ok ran
    split
    · exact promptFrom_quiet (fun _ => Step.preserves_fail _) w₁
    · next part _ =>
      refine promptFrom_bind (prompt_handledEdge running) fun given w₂ _ => ?_
      split
      · exact promptFrom_pure _ w₂
      · refine after_quiet (fun _ => Step.preserves_read _) fun known w₃ _ => ?_
        split
        · exact promptFrom_pure _ w₃
        · refine after_visit (fun blind => Visit.preserves_newPart blind _ _ _ _) fun made w₄ _ => ?_
          refine promptFrom_bind (promptFrom_collect (fun child _ => deeper _ _ child) w₄)
            fun below w₅ _ => ?_
          exact promptFrom_pure _ w₅

theorem prompt_edges (parent : String) (parentType : TypeId) (children : List Edge) (w : PartWork) :
    PromptFrom (·.shared.cancelled) (edges ctx graph parent parentType children) w :=
  promptFrom_collect (fun child _ => prompt_edge _ parent parentType child) w

theorem prompt_content (part : Part) (w : PartWork) :
    PromptFrom (·.shared.cancelled) (content ctx part) w := by
  unfold content
  split
  · exact promptFrom_pure [] w
  · exact promptFrom_visit (fun blind => Visit.preserves_payloadFeed blind _) w
  · next e _ =>
    have alone : PromptFrom (·.shared.cancelled) (buildAlone (root ctx (some e))) w :=
      prompt_root (some e) ⟨w.shared, .empty⟩
    refine promptFrom_bind alone fun output w₁ _ => ?_
    split
    · exact promptFrom_pure _ w₁
    · exact promptFrom_quiet (fun _ => Step.preserves_fail _) w₁

theorem prompt_helper (b : Blueprint) (w : PartWork) :
    PromptFrom (·.shared.cancelled) (helper ctx b) w := by
  unfold helper
  refine after_visit (fun _ => Visit.preserves_checkCancelled) fun _ w₁ ran => ?_
  obtain ⟨running, rfl⟩ := Visit.checkCancelled_ok ran
  refine promptFrom_bind (prompt_handledRoutine running) fun given w₂ _ => ?_
  split
  · exact promptFrom_pure _ w₂
  · have filled : PromptFrom (·.shared.cancelled) (fillRoutine ctx b) w₂ := by
      unfold fillRoutine
      refine promptFrom_bind (prompt_content b.part w₂) fun body w₃ _ => ?_
      exact after_visit (fun _ => Visit.preserves_typeName _) fun _ w₄ _ => promptFrom_pure _ w₄
    exact promptFrom_bind filled fun _ w₃ _ => promptFrom_pure _ w₃

theorem prompt_helpers (w : PartWork) : PromptFrom (·.shared.cancelled) (helpers ctx) w :=
  after_quiet (fun _ => Step.preserves_read _) fun _ w₁ _ =>
    promptFrom_collect (fun b _ => prompt_helper b) w₁

theorem prompt_partRoutines (part : Option Part) (w : PartWork) :
    PromptFrom (·.shared.cancelled) (partRoutines ctx graph part) w := by
  unfold partRoutines
  split
  · exact promptFrom_quiet (fun _ => Step.preserves_fail _) w
  · next part =>
    have entered : PromptFrom (·.shared.cancelled) (partEntry ctx graph part) w := by
      unfold partEntry
      refine after_visit (fun _ => Visit.preserves_checkCancelled) fun _ w₁ _ => ?_
      refine after_visit (fun blind => Visit.preserves_onNamespaces blind _) fun _ w₂ _ => ?_
      refine after_visit (fun blind => Visit.preserves_nextName blind _) fun _ w₃ _ => ?_
      refine after_visit (fun blind => Visit.preserves_enter blind _) fun _ w₄ _ => ?_
      refine after_visit (fun blind => Visit.preserves_onNamespaces blind _) fun _ w₅ _ => ?_
      refine promptFrom_bind (prompt_edges _ _ _ w₅) fun _ w₆ _ => ?_
      exact after_visit (fun _ => Visit.preserves_typeName _) fun _ w₇ _ => promptFrom_pure _ w₇
    refine promptFrom_bind entered fun _ w₁ _ => ?_
    exact promptFrom_bind (prompt_helpers w₁) fun _ w₂ _ => promptFrom_pure _ w₂

theorem prompt_packageRoutines (package : Option Package) (w : PartWork) :
    PromptFrom (·.shared.cancelled) (packageRoutines ctx graph package) w := by
  unfold packageRoutines
  split
  · exact promptFrom_quiet (fun _ => Step.preserves_fail _) w
  · next package =>
    have entered : PromptFrom (·.shared.cancelled) (packageEntries ctx graph package) w := by
      unfold packageEntries
      refine after_visit (fun _ => Visit.preserves_checkCancelled) fun _ w₁ _ => ?_
      refine after_visit (fun blind => Visit.preserves_onNamespaces blind _) fun _ w₂ _ => ?_
      refine after_visit (fun blind => Visit.preserves_onNamespaces blind _) fun _ w₃ _ => ?_
      refine after_visit (fun _ => Visit.preserves_typeName _) fun _ w₄ _ => ?_
      refine after_visit (fun _ => Visit.preserves_typeName _) fun _ w₅ _ => ?_
      refine promptFrom_bind (prompt_edges _ _ _ w₅) fun _ w₆ _ => ?_
      exact after_visit (fun blind => Visit.preserves_onNamespaces blind _) fun _ w₇ _ =>
        promptFrom_pure _ w₇
    refine promptFrom_bind entered fun _ w₁ _ => ?_
    exact promptFrom_bind (prompt_helpers w₁) fun _ w₂ _ => promptFrom_pure _ w₂

end Told

end DocScript
