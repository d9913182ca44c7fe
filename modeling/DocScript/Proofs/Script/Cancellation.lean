import Mathlib
import DocScript.Proofs.Graph.Traversal
import DocScript.Proofs.Script.Agreement
import DocScript.Proofs.Script.Prompt

/-!
# Cancelled runs

A run can only end well in spite of a cancellation if nothing comes after it: its last element was
left to the handler that cancelled, or is opaque. The routines of parts never come after it.
-/

namespace DocScript

open Compile Logged

namespace Told

variable {ctx : Context}

/-! ### The last element -/

/-- The last thing that happened: an element was entered, and its handler cancelled the run. What
the handler gave was used, or the element is opaque. -/
def LastCancels (ctx : Context) (log : List Event) : Prop :=
  ∃ earlier e used, log = earlier ++ [.enters e, .asks (.element e) false true used] ∧
    (used = true ∨ ∃ r, ctx.registry.element? e.type = some r ∧ r.spec.category = .opaqueNode)

theorem LastCancels.prepend {log : List Event} (h : LastCancels ctx log) (more : List Event) :
    LastCancels ctx (more ++ log) := by
  obtain ⟨earlier, e, used, rfl, why⟩ := h
  exact ⟨more ++ earlier, e, used, (List.append_assoc _ _ _).symm, why⟩

theorem quiet_ok {m : Build α} {w w' : Workspace} {a : α} (keeps : ∀ c, Build.Keeps c m)
    (ran : m w = (.ok a, w')) : w'.shared.cancelled = w.shared.cancelled :=
  (keeps w.shared.cancelled).ran ran rfl

/-- A handler that leaves the run cancelled was asked, since the run went on until then. -/
theorem handled_log {e : Element} {w w' : Workspace} {given : Option ElementOutput}
    (running : w.shared.cancelled = false) (ran : (handled ctx e).run w = (.ok given, w'))
    (stopped : w'.shared.cancelled = true) :
    (handled ctx e).log w = [.asks (.element e) false true given.isSome] := by
  unfold handled at ran ⊢
  split at ran
  · obtain ⟨_, rfl⟩ := Step.pure_ok ran
    rw [running] at stopped
    cases stopped
  · next handler _ =>
    obtain ⟨result, rfl⟩ := Prod.mk.inj ran
    obtain rfl := Except.ok.inj result
    show [Event.asks _ w.shared.cancelled (handler e w).2.shared.cancelled _] = _
    rw [running, stopped]

theorem lastCancels_handled {e : Element} {w w' : Workspace} {given : Option ElementOutput}
    (running : w.shared.cancelled = false) (ran : (handled ctx e).run w = (.ok given, w'))
    (stopped : w'.shared.cancelled = true) (why : given.isSome = true ∨ ∃ r,
      ctx.registry.element? e.type = some r ∧ r.spec.category = .opaqueNode) :
    LastCancels ctx (.enters e :: (handled ctx e).log w) := by
  rw [handled_log running ran stopped]
  exact ⟨[], e, given.isSome, rfl, why⟩

theorem element_running {e : Element} {path : List String} {w w' : Workspace}
    {output : ElementOutput} (ran : (element ctx path e).run w = (.ok output, w')) :
    w.shared.cancelled = false := by
  cases e
  unfold element at ran
  obtain ⟨_, w₁, entered, rest, _⟩ := bind_ok ran
  obtain ⟨_, rfl⟩ := Step.pure_ok entered
  obtain ⟨_, w₂, looked, _, _⟩ := bind_ok rest
  exact (Build.checkCancelled_ok looked).1

/-- The children of an element that are left when the run is cancelled are skipped, or it fails. -/
theorem elements_stopped {es : List Element} {path : List String} {name : String}
    {w w' : Workspace} {is : List Instr} (ran : (elements ctx path name es).run w = (.ok is, w'))
    (stopped : w.shared.cancelled = true) : (elements ctx path name es).log w = [] := by
  induction es generalizing is with
  | nil => rfl
  | cons child rest ih =>
    unfold elements at ran ⊢
    split at ran
    · next skipped =>
      rw [if_pos skipped]
      exact ih ran
    · obtain ⟨_, w₁, first, _, _⟩ := bind_ok ran
      rw [element_running first] at stopped
      cases stopped

mutual

theorem element_lastCancels : ∀ (e : Element) {path : List String} {w w' : Workspace}
    {output : ElementOutput}, (element ctx path e).run w = (.ok output, w') →
    w'.shared.cancelled = true → LastCancels ctx ((element ctx path e).log w)
  | e@⟨type, children, _, _, _, _, _, _⟩, path, w, w', output, ran, stopped => by
    have below {w w' : Workspace} {name : String} {is : List Instr} :=
      @elements_lastCancels children (path ++ [type.name]) name w w' is
    unfold element at ran ⊢
    obtain ⟨_, w₁, entered, ran, log⟩ := bind_ok ran
    rw [log]
    obtain ⟨_, w₂, looked, ran, log⟩ := quiet_bind_ok ran
    rw [log]
    obtain ⟨running, rfl⟩ := Build.checkCancelled_ok looked
    dsimp only at ran ⊢
    split at ran
    · obtain ⟨rfl, rfl⟩ := Step.pure_ok ran
      rw [running] at stopped
      cases stopped
    · next shown =>
      rw [if_neg shown]
      obtain ⟨given, w₃, asked, ran, log⟩ := bind_ok ran
      rw [log]
      -- Whatever follows the request of the handler, it has to leave the run cancelled.
      cases given with
      | some given =>
        obtain ⟨rfl, rfl⟩ := Step.pure_ok ran
        rw [log_pure, List.append_nil]
        exact lastCancels_handled running asked stopped (Or.inl rfl)
      | none =>
        dsimp only at ran ⊢
        split at ran
        · exact (Step.fail_ok ran).elim
        · next r resolved =>
          obtain ⟨_, w₄, registered, ran, log⟩ := quiet_bind_ok ran
          rw [log]
          split at ran
          · next category =>
            rw [if_pos category]
            obtain ⟨value, w₅, created, ran, log⟩ := quiet_bind_ok ran
            rw [log]
            obtain ⟨made, w₆, declared, ran, log⟩ := quiet_bind_ok ran
            rw [log]
            obtain ⟨_, w₇, released, ran, log⟩ := quiet_bind_ok ran
            rw [log]
            obtain ⟨rfl, rfl⟩ := Step.pure_ok ran
            have stopped : w₃.shared.cancelled = true := by
              rw [← stopped, quiet_ok (fun _ => Build.keeps_release _ _) released,
                quiet_ok (fun _ => Build.keeps_declare _ _) declared,
                quiet_ok (fun _ => Build.keeps_creation _ _ _) created,
                quiet_ok (fun _ => Build.keeps_register _) registered]
            rw [log_pure, List.append_nil]
            exact lastCancels_handled running asked stopped (Or.inr ⟨r, resolved, category⟩)
          · next category =>
            rw [if_neg category]
            obtain ⟨head, w₅, built, ran, log⟩ := quiet_bind_ok ran
            rw [log]
            obtain ⟨_, w₆, looked, ran, log⟩ := quiet_bind_ok ran
            rw [log]
            obtain ⟨running, rfl⟩ := Build.checkCancelled_ok looked
            obtain ⟨body, w₇, written, ran, log⟩ := bind_ok ran
            rw [log]
            obtain ⟨_, w₈, released, ran, log⟩ := quiet_bind_ok ran
            rw [log]
            obtain ⟨rfl, rfl⟩ := Step.pure_ok ran
            have stopped : w₇.shared.cancelled = true := by
              rw [← stopped, quiet_ok (fun _ => Build.keeps_release _ _) released]
            rw [log_pure, List.append_nil]
            exact ((below written running stopped).prepend ((handled _ _).log w₁)).prepend [.enters _]

theorem elements_lastCancels : ∀ (es : List Element) {path : List String} {name : String}
    {w w' : Workspace} {is : List Instr}, (elements ctx path name es).run w = (.ok is, w') →
    w.shared.cancelled = false → w'.shared.cancelled = true →
    LastCancels ctx ((elements ctx path name es).log w)
  | [], path, name, w, w', is, ran, running, stopped => by
    obtain ⟨rfl, rfl⟩ := Step.pure_ok ran
    rw [running] at stopped
    cases stopped
  | child :: rest, path, name, w, w', is, ran, running, stopped => by
    have here {w' : Workspace} {output : ElementOutput} :=
      @element_lastCancels child path w w' output
    have later {w : Workspace} {is : List Instr} := @elements_lastCancels rest path name w w' is
    unfold elements at ran ⊢
    split at ran
    · next skipped =>
      rw [if_pos skipped]
      exact later ran running stopped
    · next shown =>
      rw [if_neg shown]
      obtain ⟨output, w₁, first, ran, log⟩ := bind_ok ran
      rw [log]
      obtain ⟨more, w₂, others, ran, log⟩ := bind_ok ran
      rw [log]
      obtain ⟨rfl, rfl⟩ := Step.pure_ok ran
      rw [log_pure, List.append_nil]
      -- If the child left the run cancelled, all that follow it are skipped without being entered.
      cases between : w₁.shared.cancelled with
      | true =>
        rw [elements_stopped others between, List.append_nil]
        exact here first between
      | false => exact (later others between stopped).prepend _
end

end Told

namespace Compile

variable {ctx : Context} {graph : Graph}

/-! ### Before the routines of the parts -/

theorem started_edge : ∀ (fuel : Nat) (parent : String) (parentType : TypeId) (e : Edge),
    Step.Preserves Visit.Started (edge ctx graph fuel parent parentType e) := by
  intro fuel
  induction fuel with
  | zero => intro _ _ _; exact Step.preserves_pure []
  | succ fuel deeper =>
    intro parent parentType e
    unfold edge
    refine Visit.preserves_checkCancelled.bind fun _ => ?_
    split
    · exact Step.preserves_fail _
    · next part _ =>
      have asked : Step.Preserves Visit.Started (handledEdge ctx parent e part) := by
        unfold handledEdge
        split
        · exact Step.preserves_pure _
        · exact fun _ holds => holds
      refine asked.bind fun given => ?_
      split
      · exact Step.preserves_pure _
      · refine (Step.preserves_read _).bind fun known => ?_
        split
        · exact Step.preserves_pure _
        · refine (Visit.preserves_newPart Visit.blind_started _ _ _ _).bind fun made => ?_
          exact (Step.preserves_collect fun child _ => deeper _ _ child).bind fun _ =>
            Step.preserves_pure _

theorem partEntry_started {part : Part} {w w' : PartWork} {entry : Routine}
    (ran : partEntry ctx graph part w = (.ok entry, w')) : Visit.Started w' := by
  unfold partEntry at ran
  obtain ⟨_, w₁, _, ran⟩ := Step.bind_ok ran
  obtain ⟨_, w₂, _, ran⟩ := Step.bind_ok ran
  obtain ⟨name, w₃, _, ran⟩ := Step.bind_ok ran
  obtain ⟨_, w₄, entered, ran⟩ := Step.bind_ok ran
  have started : Visit.Started w₄ := by
    rw [(Visit.enter_ok entered).2]
    exact ⟨part.uri, _, OrderedMap.get?_insert_self _ _ _⟩
  obtain ⟨relations, w₅, linked, ran⟩ := Step.bind_ok ran
  obtain ⟨below, w₆, walked, ran⟩ := Step.bind_ok ran
  obtain ⟨typeName, w₇, named, ran⟩ := Step.bind_ok ran
  obtain ⟨_, rfl⟩ := Step.pure_ok ran
  have started₅ := Step.Preserves.ran (Visit.preserves_onNamespaces Visit.blind_started _) linked
    started
  have started₆ := Step.Preserves.ran
    (Step.preserves_collect fun child _ => started_edge _ _ _ child) walked started₅
  exact Step.Preserves.ran (Visit.preserves_typeName _) named started₆

/-- The routines of the parts fail at once in a run that is cancelled. -/
theorem helpers_stopped {w : PartWork} (started : Visit.Started w)
    (stopped : w.shared.cancelled = true) : helpers ctx w = (.error .cancelled, w) := by
  obtain ⟨uri, b, found⟩ := started
  have member : b ∈ w.blueprints.values := OrderedMap.mem_values_iff.mpr ⟨uri, found⟩
  have checked : Visit.checkCancelled w = (.error .cancelled, w) := if_pos stopped
  show Step.collect (helper ctx) w.blueprints.values w = _
  cases whole : w.blueprints.values with
  | nil =>
    rw [whole] at member
    cases member
  | cons first rest =>
    have refused : helper ctx first w = (.error .cancelled, w) := by
      unfold helper
      rw [Step.bind_eq, checked]
    rw [Step.collect_cons, Step.bind_eq, refused]

theorem partRoutines_stopped {part : Part} {w w' : PartWork} {entry : Routine}
    (ran : partEntry ctx graph part w = (.ok entry, w')) (stopped : w'.shared.cancelled = true) :
    partRoutines ctx graph (some part) w = (.error .cancelled, w') := by
  have refused : helpers ctx w' = (.error .cancelled, w') :=
    helpers_stopped (partEntry_started ran) stopped
  show (partEntry ctx graph part >>= fun entry => helpers ctx >>= fun more => pure (entry, more)) w = _
  rw [Step.bind_eq, ran]
  show (helpers ctx >>= fun more => pure (entry, more)) w' = _
  rw [Step.bind_eq, refused]

/-- In a run, told with all that it asks of handlers, nobody is asked once it was cancelled,
whatever the handlers do. A run on an element that ends well although a handler cancelled it was
cancelled by the handler of the last element that it entered, which gave the instructions for it
unless that element is opaque. A part that has been entered by then does not get its routines.
Handlers that would do something else in a cancelled run make no difference. -/
theorem cancellation_is_prompt (ctx : Context) (graph : Graph) :
    (∀ (e : Option Element) (w : Workspace),
      (Told.root ctx e).run w = root ctx e w ∧ Heeded ((Told.root ctx e).log w) ∧
      ∀ output w', root ctx e w = (.ok output, w') →
        (∃ event ∈ (Told.root ctx e).log w, event.cancels = true) →
        Told.LastCancels ctx ((Told.root ctx e).log w)) ∧
    (∀ (part : Option Part) (w : PartWork),
      (Told.partRoutines ctx graph part).run w = partRoutines ctx graph part w ∧
      Heeded ((Told.partRoutines ctx graph part).log w) ∧
      ∀ p entry w', part = some p → partEntry ctx graph p w = (.ok entry, w') →
        w'.shared.cancelled = true → partRoutines ctx graph part w = (.error .cancelled, w')) ∧
    (∀ (package : Option Package) (w : PartWork),
      (Told.packageRoutines ctx graph package).run w = packageRoutines ctx graph package w ∧
      Heeded ((Told.packageRoutines ctx graph package).log w)) ∧
    ∀ handlers, ctx.handlers.AgreeWhileRunning handlers →
      root ctx = root { ctx with handlers } ∧
      partRoutines ctx graph = partRoutines { ctx with handlers } graph ∧
      packageRoutines ctx graph = packageRoutines { ctx with handlers } graph := by
  refine ⟨fun e w => ?_, fun part w => ?_, fun package w => ?_, fun handlers agree => ?_⟩
  · have prompt : Told.PromptFrom (·.shared.cancelled) (Told.root ctx e) w := Told.prompt_root e w
    have same : (Told.root ctx e).run w = root ctx e w := congrFun (Told.run_root e) w
    refine ⟨same, prompt.heeded, fun output w' ran ⟨event, member, cancels⟩ => ?_⟩
    have stopped : w'.shared.cancelled = true := by
      have ends := prompt.cancels member cancels
      rw [same, ran] at ends
      exact ends
    cases e with
    | none => exact (Step.fail_ok ran).elim
    | some e => exact Told.element_lastCancels e (same.trans ran) stopped
  · have prompt : Told.PromptFrom (·.shared.cancelled) (Told.partRoutines ctx graph part) w :=
      Told.prompt_partRoutines part w
    refine ⟨congrFun (Told.run_partRoutines part) w, prompt.heeded, ?_⟩
    rintro p entry w' rfl entered stopped
    exact partRoutines_stopped entered stopped
  · have prompt : Told.PromptFrom (·.shared.cancelled) (Told.packageRoutines ctx graph package) w :=
      Told.prompt_packageRoutines package w
    exact ⟨congrFun (Told.run_packageRoutines package) w, prompt.heeded⟩
  · have agrees : ctx.Agrees { ctx with handlers } := ⟨rfl, agree, .refl _⟩
    exact ⟨funext agrees.root, funext (agrees.partRoutines graph),
      funext (agrees.packageRoutines graph)⟩

/-- A handler that gives something of its own and cancels the run. -/
def giveUp : ElementHandler := fun _ w =>
  (some ⟨[.blank], "b"⟩, { w with shared := { w.shared with cancelled := true } })

def giveUpEdge : PartHandler where
  edge _ _ _ shared := (some [.blank], { shared with cancelled := true })
  routine _ shared := (none, shared)

/-- Handlers that cancel at elements and parts of two types. -/
def givingUp : Context :=
  let type : TypeId := .plain "N" "A"
  ⟨.standard, ⟨.ofList [(type, ⟨⟨type, .regular, none, [], ""⟩, [], [], []⟩)], .empty, .empty, .empty,
    [type], Schema.standardRawKind, .standard⟩,
    ⟨.ofList [(.plain "N" "B", giveUp)], .ofList [(.plain "N" "P", giveUpEdge)]⟩⟩

def givenUp : Element :=
  { Element.ofType (.plain "N" "A") with children := [.ofType (.plain "N" "B")] }

/-- Handlers that give up as well, but leave a cancelled run alone. -/
def givingUpOnce : Handlers :=
  ⟨.ofList [(.plain "N" "B", fun e w => if w.shared.cancelled then (none, w) else giveUp e w)],
    .ofList [(.plain "N" "P", { giveUpEdge with
      edge := fun parent e part s =>
        if s.cancelled then (none, s) else giveUpEdge.edge parent e part s })]⟩

theorem givingUpOnce_agree : givingUp.handlers.AgreeWhileRunning givingUpOnce where
  elements t := by
    show Option.Rel _ (lookupEntry t [_]) (lookupEntry t [_])
    simp only [lookupEntry]
    split
    · exact .some fun e w running => by simp [running]
    · exact .none
  parts t := by
    show Option.Rel _ (lookupEntry t [_]) (lookupEntry t [_])
    simp only [lookupEntry]
    split
    · exact .some fun s running => ⟨fun _ _ _ => by simp [running], fun _ => rfl⟩
    · exact .none

/-- The handler of the only child of an element cancels and gives something, and it does not matter
what it would do later. The handler of the only target of a part does the same. -/
theorem givenUp_stops :
    (∃ output w', root givingUp (some givenUp) ⟨.start false, .empty⟩ = (.ok output, w') ∧
      Told.LastCancels givingUp
        ((Told.root givingUp (some givenUp)).log ⟨.start false, .empty⟩) ∧
      root { givingUp with handlers := givingUpOnce } (some givenUp) ⟨.start false, .empty⟩ =
        (.ok output, w')) ∧
    ∃ w', partRoutines givingUp ring (some (hub "/a" [⟨"r", "/b"⟩])) (.start (.start false)) =
      (.error .cancelled, w') := by
  obtain ⟨elements, parts, _, others⟩ := cancellation_is_prompt givingUp ring
  constructor
  · obtain ⟨_, _, last⟩ := elements (some givenUp) ⟨.start false, .empty⟩
    obtain ⟨output, w', ran⟩ : ∃ output w',
        root givingUp (some givenUp) ⟨.start false, .empty⟩ = (.ok output, w') :=
      Step.exists_ok (by cbv)
    have asked : ((Told.root givingUp (some givenUp)).log ⟨.start false, .empty⟩).any
        (·.cancels) = true := by
      cbv
    refine ⟨output, w', ran, last output w' ran (List.any_eq_true.mp asked), ?_⟩
    rw [← (others givingUpOnce givingUpOnce_agree).1]
    exact ran
  · obtain ⟨_, _, refused⟩ := parts (some (hub "/a" [⟨"r", "/b"⟩])) (.start (.start false))
    obtain ⟨entry, w', ran⟩ : ∃ entry w', partEntry givingUp ring (hub "/a" [⟨"r", "/b"⟩])
        (.start (.start false)) = (.ok entry, w') :=
      Step.exists_ok (by cbv)
    have stopped : (partEntry givingUp ring (hub "/a" [⟨"r", "/b"⟩])
        (.start (.start false))).2.shared.cancelled = true := by
      cbv
    rw [ran] at stopped
    exact ⟨w', refused _ entry w' rfl ran stopped⟩

end Compile

end DocScript
