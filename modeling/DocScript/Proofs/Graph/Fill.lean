import Mathlib.Data.List.Forall2
import DocScript.Proofs.Element.Run
import DocScript.Proofs.Element.Scope
import DocScript.Proofs.Graph.Walk
import DocScript.Proofs.Script.Locals

/-!
# What fills a part

Every part that is visited has a routine that fills it. The routine works on its parameter and on
variables of its own: those of an element tree, or those that feed bytes into the part.
-/

namespace DocScript

open Instr Compile

section

variable {α β : Type} {R : α → β → Prop} {as : List α} {bs : List β}

theorem forall₂_mem_left (related : List.Forall₂ R as bs) : ∀ a ∈ as, ∃ b ∈ bs, R a b := by
  induction related with
  | nil => exact List.forall_mem_nil _
  | cons first _ ih =>
    rw [List.forall_mem_cons]
    refine ⟨⟨_, List.mem_cons_self, first⟩, fun a later => ?_⟩
    obtain ⟨b, inside, related⟩ := ih a later
    exact ⟨b, List.mem_cons_of_mem _ inside, related⟩

theorem forall₂_mem_right (related : List.Forall₂ R as bs) : ∀ b ∈ bs, ∃ a ∈ as, R a b :=
  forall₂_mem_left related.flip

end

variable {ctx : Context} {ns : Namespaces}

/-- The variables for an element tree that is rebuilt on its own. -/
def elementLocals (ctx : Context) (ns : Namespaces) (e : Element) : List Local :=
  ((plan ctx (ns.typeName ctx.settings.policy) e .empty).1.toList.flatMap Plan.fresh).map
    fun v => ⟨v.type, v.name ns⟩

theorem numbered_elementLocals (ctx : Context) (ns : Namespaces) (e : Element) :
    Local.Numbered (elementLocals ctx ns e) :=
  Local.numbered_of_nodup (fun _ _ _ => Variable.name_inj) (yields_plan ctx _ e .empty).nodup

/-- What an element tree gives mentions only what it declares, and so does what uses the variable
of its root. -/
theorem output_holds {e : Element} {out : ElementOutput}
    (written : out = Plan.output (ns.spelling ctx.settings.policy)
      (plan ctx (ns.typeName ctx.settings.policy) e .empty).1) (known : List String) :
    walkAll out.instructions = out.instructions ∧ Scoped known out.instructions ∧
      declaredIn out.instructions = (elementLocals ctx ns e).map (·.name) ∧
      (out.name ≠ "" → out.name ∈ declaredIn out.instructions) := by
  have sound := Stocks.sound_empty ctx.settings.uniqueNames
  have yields := yields_plan ctx (ns.typeName ctx.settings.policy) e .empty
  have none : Stocks.Named (ns.spelling ctx.settings.policy) known .empty :=
    fun _ made => (Nat.not_lt_zero _ made).elim
  unfold elementLocals
  cases planned : (plan ctx (ns.typeName ctx.settings.policy) e .empty).1 with
  | none =>
    rw [planned] at written
    subst written
    exact ⟨rfl, trivial, rfl, fun named => (named rfl).elim⟩
  | some p =>
    rw [planned] at written yields
    subst written
    have declared : declaredIn (p.code (ns.spelling ctx.settings.policy)) = p.fresh.map (·.name ns) :=
      declaredIn_code _ p
    refine ⟨walk_code _ p, scoped_code ctx _ _ e .empty known sound none p planned, ?_, fun _ => ?_⟩
    · simp [Plan.output, declared]
    · have made := (yields.made p.holder).mpr ⟨Nat.zero_le _, holder_made e sound planned⟩
      simp only [Option.toList_some, List.flatMap_cons, List.flatMap_nil, List.append_nil] at made
      simp only [Plan.output, declared]
      exact List.mem_map.mpr ⟨p.holder, made, rfl⟩

def contentLocals (ctx : Context) (ns : Namespaces) : Content → List Local
  | .none => []
  | .binary _ => [⟨.plain "System" "String", "base64"⟩, ⟨memoryStreamType, "mem"⟩]
  | .root e => elementLocals ctx ns e

namespace Compile

variable {part : Part} {body : List Instr} {w w' : PartWork}

/-- A step adds nothing but namespaces, and its instructions fill a part. -/
structure Fills (ctx : Context) (part : Part) (body : List Instr) (w w' : PartWork) : Prop where
  grows : w.shared.namespaces ≤ w'.shared.namespaces
  mentions : ∀ ns, w'.shared.namespaces ≤ ns → Scoped [partName] (walkAll body)
  declared : ∀ ns, w'.shared.namespaces ≤ ns →
    declaredIn (walkAll body) = (contentLocals ctx ns part.content).map (·.name)

theorem payloadFeed_ok {bytes : List UInt8} (h : payloadFeed ctx bytes w = (.ok body, w')) :
    w.Registers w' ∧ Scoped [partName] (walkAll body) ∧
      declaredIn (walkAll body) = ["base64", "mem"] := by
  obtain ⟨_, w₁, convert, h⟩ := Step.bind_ok h
  obtain ⟨_, w₂, stream, h⟩ := Step.bind_ok h
  obtain ⟨convertName, w₃, first, h⟩ := Step.bind_ok h
  obtain ⟨streamName, w₄, second, h⟩ := Step.bind_ok h
  obtain ⟨memoryName, w₅, third, h⟩ := Step.bind_ok h
  obtain ⟨rfl, rfl⟩ := Step.pure_ok h
  obtain rfl := Visit.typeName_ok first
  obtain rfl := Visit.typeName_ok second
  obtain rfl := Visit.typeName_ok third
  refine ⟨(Visit.addPlain_ok convert).trans (Visit.addPlain_ok stream), ?_, rfl⟩
  simp [walkAll, walk, Scoped, Instr.reads, Instr.declares, invokeOn, Expr.mentions, Expr.mentionsAll,
    Expr.mentionsTarget, Expr.text, Expr.truth]

theorem buildAlone_ok {α : Type} {m : Build α} {a : α}
    (h : Visit.buildAlone m w = (.ok a, w')) :
    ∃ workspace, m ⟨w.shared, .empty⟩ = (.ok a, workspace) ∧
      w' = { w with shared := workspace.shared } := by
  obtain ⟨result, rfl⟩ := Prod.mk.inj h
  exact ⟨_, Prod.ext result rfl, rfl⟩

theorem rootAssignment_ok {e : Element} {name : String} {is : List Instr}
    (h : rootAssignment ctx part e name = .ok is) :
    is = [] ∨ name ≠ "" ∧ ∃ property, is = [.set partName property (.var name)] := by
  unfold rootAssignment at h
  split at h
  · exact Or.inl (Except.ok.inj h).symm
  · next named =>
    cases found : rootProperty ctx part e with
    | error failure =>
      rw [found] at h
      cases h
    | ok property =>
      rw [found] at h
      exact Or.inr ⟨named, property, (Except.ok.inj h).symm⟩

/-- The instructions for a tree and the assignment of its root to the part. -/
theorem fills_root (plain : ctx.handlers = .none) {e : Element} {out : ElementOutput}
    {assignment : List Instr} (content : part.content = .root e)
    (ran : Visit.buildAlone (root ctx (some e)) w = (.ok out, w'))
    (assigned : rootAssignment ctx part e out.name = .ok assignment) :
    Fills ctx part (out.instructions ++ assignment) w w' := by
  obtain ⟨workspace, built, rfl⟩ := buildAlone_ok ran
  have grown := (extends_element plain e []).le built
  have written (ns : Namespaces) (le : workspace.shared.namespaces ≤ ns) :=
    output_holds (element_follows plain ns e [] ⟨w.shared, .empty⟩ out workspace .empty
      (Pools.Tracks.empty _ _) built le).2 [partName]
  have last : walkAll assignment = assignment ∧ declaredIn assignment = [] := by
    rcases rootAssignment_ok assigned with rfl | ⟨_, property, rfl⟩ <;> exact ⟨rfl, rfl⟩
  refine ⟨grown, fun ns le => ?_, fun ns le => ?_⟩
  · obtain ⟨walks, mentions, _, declares⟩ := written ns le
    rw [walkAll_append, walks, last.1]
    refine mentions.append ?_
    rcases rootAssignment_ok assigned with rfl | ⟨named, property, rfl⟩
    · trivial
    · refine ⟨fun x read => ?_, trivial⟩
      simp only [Instr.set, Instr.reads, Expr.mentions, List.mem_append, List.mem_singleton] at read
      rcases read with rfl | rfl
      · exact List.mem_append_right _ List.mem_cons_self
      · exact List.mem_append_left _ (declares named)
  · obtain ⟨walks, _, declared, _⟩ := written ns le
    rw [walkAll_append, walks, last.1, declaredIn_append, declared, last.2, List.append_nil, content]
    rfl

theorem content_ok (plain : ctx.handlers = .none) (h : content ctx part w = (.ok body, w')) :
    Fills ctx part body w w' := by
  unfold content at h
  cases kind : part.content with
  | none =>
    rw [kind] at h
    obtain ⟨rfl, rfl⟩ := Step.pure_ok h
    refine ⟨Namespaces.le_refl _, fun _ _ => trivial, fun _ _ => ?_⟩
    rw [kind]
    rfl
  | binary bytes =>
    rw [kind] at h
    obtain ⟨frame, mentions, declared⟩ := payloadFeed_ok h
    refine ⟨frame.grows, fun _ _ => mentions, fun _ _ => ?_⟩
    rw [declared, kind]
    rfl
  | root e =>
    rw [kind] at h
    obtain ⟨out, u, built, rest⟩ := Step.bind_ok h
    cases assigned : rootAssignment ctx part e out.name with
    | error failure =>
      simp only [assigned] at rest
      exact (Step.fail_ok rest).elim
    | ok assignment =>
      simp only [assigned] at rest
      obtain ⟨rfl, rfl⟩ := Step.pure_ok rest
      exact fills_root plain kind built assigned

theorem numbered_contentLocals (ctx : Context) (ns : Namespaces) (c : Content) :
    Local.Numbered (contentLocals ctx ns c) := by
  cases c with
  | none => exact List.Pairwise.nil
  | binary bytes => simp [contentLocals, Local.Numbered]
  | root e => exact numbered_elementLocals ctx ns e

theorem handledRoutine_eq (plain : ctx.handlers = .none) (b : Blueprint) :
    handledRoutine ctx b = pure none := by
  rw [handledRoutine, plain]
  rfl

/-- The routine for a blueprint is the one that fills its part. -/
theorem helper_fills (plain : ctx.handlers = .none) {b : Blueprint} {rs : List Routine}
    (h : helper ctx b w = (.ok rs, w')) : ∃ r, rs = [r] ∧ fillRoutine ctx b w = (.ok r, w') := by
  obtain ⟨_, u, checked, ran⟩ := Step.bind_ok h
  obtain ⟨_, rfl⟩ := Visit.checkCancelled_ok checked
  rw [handledRoutine_eq plain, Step.pure_then] at ran
  obtain ⟨r, v, filled, last⟩ := Step.bind_ok ran
  obtain ⟨rfl, rfl⟩ := Step.pure_ok last
  exact ⟨r, rfl, filled⟩

theorem helper_ok (plain : ctx.handlers = .none) {b : Blueprint} {rs : List Routine}
    (h : helper ctx b w = (.ok rs, w')) :
    w.shared.namespaces ≤ w'.shared.namespaces ∧ ∃ r, rs = [r] ∧
      ∀ ns, w'.shared.namespaces ≤ ns → r.Holds (contentLocals ctx ns b.part.content) := by
  obtain ⟨r, rfl, filled⟩ := helper_fills plain h
  obtain ⟨body, v₁, made, filled⟩ := Step.bind_ok filled
  obtain ⟨typeName, v₂, typed, filled⟩ := Step.bind_ok filled
  obtain ⟨rfl, rfl⟩ := Step.pure_ok filled
  obtain rfl := Visit.typeName_ok typed
  have fills := content_ok plain made
  refine ⟨fills.grows, _, rfl, fun ns le => ⟨fills.mentions ns le, nofun, fills.declared ns le, ?_,
    numbered_contentLocals _ _ _⟩⟩
  exact List.nodup_cons.mpr ⟨nofun, List.nodup_nil⟩

/-- The routines that fill some parts, in the order of the parts. -/
theorem helpers_collect_ok (plain : ctx.handlers = .none) {bs : List Blueprint} {rs : List Routine}
    (h : Step.collect (helper ctx) bs w = (.ok rs, w')) :
    w.shared.namespaces ≤ w'.shared.namespaces ∧ ∀ ns, w'.shared.namespaces ≤ ns →
      List.Forall₂ Routine.Holds rs (bs.map fun b => contentLocals ctx ns b.part.content) := by
  induction bs generalizing w rs with
  | nil =>
    obtain ⟨rfl, rfl⟩ := Step.pure_ok h
    exact ⟨Namespaces.le_refl _, fun _ _ => .nil⟩
  | cons b rest ih =>
    obtain ⟨_, u, more, first, others, rfl⟩ := Step.collect_cons_ok h
    obtain ⟨grown, r, rfl, holds⟩ := helper_ok plain first
    obtain ⟨grown', hold⟩ := ih others
    exact ⟨Namespaces.le_trans grown grown', fun ns le =>
      .cons (holds ns (Namespaces.le_trans grown' le)) (hold ns le)⟩

/-- Every part that was visited has a routine that fills it. -/
theorem helpers_ok (plain : ctx.handlers = .none) {rs : List Routine}
    (h : helpers ctx w = (.ok rs, w')) :
    w.shared.namespaces ≤ w'.shared.namespaces ∧ ∀ ns, w'.shared.namespaces ≤ ns →
      List.Forall₂ Routine.Holds rs (w.parts.map fun p => contentLocals ctx ns p.content) := by
  obtain ⟨blueprints, u, read, h⟩ := Step.bind_ok h
  obtain ⟨value, rfl⟩ := Prod.mk.inj read
  obtain rfl := Except.ok.inj value
  obtain ⟨grown, hold⟩ := helpers_collect_ok plain h
  refine ⟨grown, fun ns le => ?_⟩
  rw [PartWork.parts, List.map_map]
  exact hold ns le

end Compile

end DocScript
