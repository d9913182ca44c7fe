import DocScript.Compile.Graph
import DocScript.Proofs.Naming.Namespaces
import DocScript.Proofs.Script.Scope
import DocScript.Proofs.Step

/-!
# Relationships only mention their owner

Hyperlinks and external relationships become calls on their owner. They can only fail at an address
that cannot be read.
-/

namespace DocScript

/-- A blank line, or the call that adds a relationship to what a variable holds. -/
inductive Instr.Relates (owner : String) : Instr → Prop
  | blank : Relates owner .blank
  | adds {operation : String} {args : List Expr}
      (known : operation ∈ ["AddHyperlinkRelationship", "AddExternalRelationship"])
      (closed : Expr.mentionsAll args = []) :
      Relates owner (.invokeOn (some (.var owner)) operation args)

namespace Instr.Relates

variable {owner : String} {i : Instr}

theorem declares (h : i.Relates owner) : i.declares = [] := by
  cases h <;> rfl

theorem walk (h : i.Relates owner) : i.walk = [i] := by
  cases h <;> rfl

theorem reads (h : i.Relates owner) : ∀ x ∈ i.reads, x = owner := by
  cases h with
  | blank => exact nofun
  | adds _ closed =>
    intro x member
    simpa [invokeOn, Instr.reads, Expr.mentionsTarget, Expr.mentions, closed] using member

end Instr.Relates

/-- The addresses of some relationships can be read. -/
def Readable (hyperlinks : List Hyperlink) (externals : List ExternalLink) : Prop :=
  (∀ h ∈ hyperlinks, ∃ absolute, Uri.isAbsolute h.uri = .ok absolute) ∧
    ∀ x ∈ externals, ∃ absolute, Uri.isAbsolute x.uri = .ok absolute

/-- One of some relationships has an address that cannot be read, for a reason. -/
def Unreadable (hyperlinks : List Hyperlink) (externals : List ExternalLink) (fault : Uri.Fault) :
    Prop :=
  (∃ h ∈ hyperlinks, Uri.isAbsolute h.uri = .error fault) ∨
    ∃ x ∈ externals, Uri.isAbsolute x.uri = .error fault

theorem Readable.not_unreadable {hyperlinks : List Hyperlink} {externals : List ExternalLink}
    {fault : Uri.Fault} (h : Readable hyperlinks externals) :
    ¬ Unreadable hyperlinks externals fault := by
  rintro (⟨l, member, failed⟩ | ⟨x, member, failed⟩)
  · obtain ⟨absolute, read⟩ := h.1 l member
    rw [failed] at read
    cases read
  · obtain ⟨absolute, read⟩ := h.2 x member
    rw [failed] at read
    cases read

instance (uri : String) : Decidable (∃ absolute, Uri.isAbsolute uri = .ok absolute) :=
  match Uri.isAbsolute uri with
  | .ok absolute => isTrue ⟨absolute, rfl⟩
  | .error _ => isFalse nofun

instance (hyperlinks : List Hyperlink) (externals : List ExternalLink) :
    Decidable (Readable hyperlinks externals) :=
  inferInstanceAs (Decidable (_ ∧ _))

namespace Compile

variable {policy : NamePolicy} {owner : String} {ns ns' : Namespaces} {is : List Instr}
  {hyperlinks : List Hyperlink} {externals : List ExternalLink} {failure : Failure}

theorem uriExpr_ok {uri : String} {made : Expr} (h : uriExpr policy uri ns = (.ok made, ns')) :
    (∃ absolute, Uri.isAbsolute uri = .ok absolute) ∧ ns ≤ ns' ∧ made.mentions = [] := by
  obtain ⟨_, t, added, h⟩ := Step.bind_ok h
  obtain ⟨_, rfl⟩ := Prod.mk.inj added
  cases found : Uri.isAbsolute uri with
  | error fault =>
    simp only [found] at h
    exact (Step.fail_ok h).elim
  | ok absolute =>
    simp only [found] at h
    obtain ⟨typeName, _, first, h⟩ := Step.bind_ok h
    obtain ⟨_, rfl⟩ := Prod.mk.inj first
    obtain ⟨kindName, _, second, h⟩ := Step.bind_ok h
    obtain ⟨_, rfl⟩ := Prod.mk.inj second
    obtain ⟨rfl, rfl⟩ := Step.pure_ok h
    exact ⟨⟨absolute, rfl⟩, Namespaces.le_addPlain _ _, rfl⟩

theorem uriExpr_error {uri : String} (h : uriExpr policy uri ns = (.error failure, ns')) :
    ∃ fault, Uri.isAbsolute uri = .error fault ∧ failure = .address fault := by
  rcases Step.bind_error h with first | ⟨_, t, _, h⟩
  · cases (Prod.mk.inj first).1
  cases found : Uri.isAbsolute uri with
  | error fault =>
    simp only [found] at h
    exact ⟨fault, rfl, (Step.fail_error h).1⟩
  | ok absolute =>
    simp only [found] at h
    rcases Step.bind_error h with first | ⟨_, _, _, h⟩
    · cases (Prod.mk.inj first).1
    rcases Step.bind_error h with first | ⟨_, _, _, h⟩
    · cases (Prod.mk.inj first).1
    · exact (Step.pure_not_error h).elim

theorem hyperlink_ok {l : Hyperlink} (h : hyperlink policy (.var owner) l ns = (.ok is, ns')) :
    ns ≤ ns' ∧ ∀ i ∈ is, i.Relates owner := by
  obtain ⟨uri, t, made, h⟩ := Step.bind_ok h
  obtain ⟨rfl, rfl⟩ := Step.pure_ok h
  obtain ⟨_, grown, closed⟩ := uriExpr_ok made
  refine ⟨grown, fun i member => ?_⟩
  rw [List.mem_singleton.mp member]
  refine .adds (by simp) ?_
  simp [Expr.mentionsAll, closed, Expr.truth, Expr.text, Expr.mentions]

theorem externalLink_ok {l : ExternalLink}
    (h : externalLink policy (.var owner) l ns = (.ok is, ns')) :
    ns ≤ ns' ∧ ∀ i ∈ is, i.Relates owner := by
  obtain ⟨uri, t, made, h⟩ := Step.bind_ok h
  obtain ⟨rfl, rfl⟩ := Step.pure_ok h
  obtain ⟨_, grown, closed⟩ := uriExpr_ok made
  refine ⟨grown, fun i member => ?_⟩
  rw [List.mem_singleton.mp member]
  refine .adds (by simp) ?_
  simp [Expr.mentionsAll, closed, Expr.text, Expr.mentions]

theorem group_ok {α : Type} {f : α → Step Namespaces (List Instr)} {links : List α}
    (each : ∀ a, ∀ {ns ns' is}, f a ns = (.ok is, ns') → ns ≤ ns' ∧ ∀ i ∈ is, i.Relates owner)
    (h : group f links ns = (.ok is, ns')) : ns ≤ ns' ∧ ∀ i ∈ is, i.Relates owner := by
  unfold group at h
  split at h
  · obtain ⟨rfl, rfl⟩ := Step.pure_ok h
    exact ⟨Namespaces.le_refl _, nofun⟩
  · obtain ⟨calls, t, ran, h⟩ := Step.bind_ok h
    obtain ⟨rfl, rfl⟩ := Step.pure_ok h
    obtain ⟨grown, relate⟩ := Step.collect_ok Namespaces.le_refl Namespaces.le_trans
      (fun a _ => each a) ran
    refine ⟨grown, fun i member => ?_⟩
    rcases List.mem_cons.mp member with rfl | later
    · exact .blank
    · exact relate i later

theorem relationships_ok (h : relationships policy owner hyperlinks externals ns = (.ok is, ns')) :
    ns ≤ ns' ∧ ∀ i ∈ is, i.Relates owner := by
  obtain ⟨calls, t, first, h⟩ := Step.bind_ok h
  obtain ⟨more, u, second, h⟩ := Step.bind_ok h
  obtain ⟨rfl, rfl⟩ := Step.pure_ok h
  obtain ⟨grown, relate⟩ := group_ok (fun _ => hyperlink_ok) first
  obtain ⟨grown', relate'⟩ := group_ok (fun _ => externalLink_ok) second
  refine ⟨Namespaces.le_trans grown grown', fun i member => ?_⟩
  rcases List.mem_append.mp member with early | late
  · exact relate i early
  · exact relate' i late

theorem group_error {α : Type} {f : α → Step Namespaces (List Instr)} {links : List α}
    (h : group f links ns = (.error failure, ns')) :
    ∃ a ∈ links, ∃ ns ns', f a ns = (.error failure, ns') := by
  unfold group at h
  split at h
  · exact (Step.pure_not_error h).elim
  · rcases Step.bind_error h with ran | ⟨_, _, _, h⟩
    · exact Step.collect_error ran
    · exact (Step.pure_not_error h).elim

theorem group_ran {α : Type} {f : α → Step Namespaces (List Instr)} {links : List α}
    (h : group f links ns = (.ok is, ns')) :
    ∀ a ∈ links, ∃ ns is ns', f a ns = (.ok is, ns') := by
  unfold group at h
  split at h
  · next none =>
    rw [List.isEmpty_iff.mp none]
    exact nofun
  · obtain ⟨calls, t, ran, _⟩ := Step.bind_ok h
    exact Step.collect_ran ran

/-- Relationships fail at the first address that cannot be read. -/
theorem relationships_error
    (h : relationships policy owner hyperlinks externals ns = (.error failure, ns')) :
    ∃ fault, Unreadable hyperlinks externals fault ∧ failure = .address fault := by
  rcases Step.bind_error h with first | ⟨_, _, _, h⟩
  · obtain ⟨l, member, u, v, failed⟩ := group_error first
    rcases Step.bind_error failed with made | ⟨_, _, _, failed⟩
    · obtain ⟨fault, unread, why⟩ := uriExpr_error made
      exact ⟨fault, Or.inl ⟨l, member, unread⟩, why⟩
    · exact (Step.pure_not_error failed).elim
  · rcases Step.bind_error h with second | ⟨_, _, _, h⟩
    · obtain ⟨x, member, u, v, failed⟩ := group_error second
      rcases Step.bind_error failed with made | ⟨_, _, _, failed⟩
      · obtain ⟨fault, unread, why⟩ := uriExpr_error made
        exact ⟨fault, Or.inr ⟨x, member, unread⟩, why⟩
      · exact (Step.pure_not_error failed).elim
    · exact (Step.pure_not_error h).elim

/-- Relationships that end well have had all their addresses read. -/
theorem relationships_readable
    (h : relationships policy owner hyperlinks externals ns = (.ok is, ns')) :
    Readable hyperlinks externals := by
  obtain ⟨calls, t, first, h⟩ := Step.bind_ok h
  obtain ⟨more, u, second, h⟩ := Step.bind_ok h
  refine ⟨fun l member => ?_, fun x member => ?_⟩
  · obtain ⟨_, _, _, ran⟩ := group_ran first l member
    obtain ⟨uri, _, made, _⟩ := Step.bind_ok ran
    exact (uriExpr_ok made).1
  · obtain ⟨_, _, _, ran⟩ := group_ran second x member
    obtain ⟨uri, _, made, _⟩ := Step.bind_ok ran
    exact (uriExpr_ok made).1

end Compile

end DocScript
