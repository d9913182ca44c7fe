import Mathlib
import DocScript.Proofs.Graph.Entry

/-!
# Graphs are preserved

A pass over a graph ends well if and only if every edge that can be reached leads to a part of the
graph. Then each of these edges is recorded once, and each part that can be reached has one
blueprint.
-/

namespace DocScript

open Instr Walked

/-- What a pass comes to that starts at some edges of the container in a variable. -/
structure Traverses (graph : Graph) (seen : List String) (owner : Option String) (holder : String)
    (es : List Edge) (result : Except Failure (List Instr))
    (blueprints : OrderedMap String Blueprint) : Prop where
  fails_iff : (∃ failure, result = .error failure) ↔
    ∃ e, graph.Leads es e ∧ graph.get? e.target = none
  reason : ∀ failure, result = .error failure → ∃ e, graph.Leads es e ∧
    graph.get? e.target = none ∧ failure = .unmet (.edgeTarget e.id e.target)
  keyed : ∀ body, result = .ok body →
    ∀ uri b, blueprints.get? uri = some b → graph.get? uri = some b.part
  held : ∀ body, result = .ok body → holderIn blueprints owner = holder
  records : ∀ body, result = .ok body → ∃ walk, Covers graph seen owner es walk blueprints.keys ∧
    linksIn body = walk.map (Walked.link (holderIn blueprints))

namespace Compile

variable {ctx : Context} {graph : Graph}

/-- A pass that fails as the graph does and else walks it. -/
theorem traverses_of (known : List Part) {owner : Option String} {holder : String} {es : List Edge}
    {result : Except Failure (List Instr)} {w : PartWork}
    (start : Explores.Starts graph (known.map (·.uri)) owner es) (distinct : (known.map (·.uri)).Nodup)
    (failed : ∀ failure, result = .error failure → ∃ e, graph.Leads es e ∧
      graph.get? e.target = none ∧ failure = .unmet (.edgeTarget e.id e.target))
    (passed : ∀ body, result = .ok body → ∃ walk, Pass graph known owner holder es body walk w) :
    Traverses graph (known.map (·.uri)) owner holder es result w.blueprints := by
  refine ⟨⟨fun ⟨failure, error⟩ => ?_, fun ⟨e, leads, out⟩ => ?_⟩, failed, ?_, ?_, ?_⟩
  · obtain ⟨e, leads, out, _⟩ := failed failure error
    exact ⟨e, leads, out⟩
  · cases result with
    | error failure => exact ⟨failure, rfl⟩
    | ok body =>
      obtain ⟨walk, pass⟩ := passed body rfl
      obtain ⟨v, walked, rfl⟩ := pass.explores.walked start leads
      have inside := (pass.explores.target walked).1
      rw [out] at inside
      cases inside
  · intro body ok
    obtain ⟨walk, pass⟩ := passed body ok
    exact pass.sound.keyed
  · intro body ok
    obtain ⟨walk, pass⟩ := passed body ok
    exact pass.held
  · intro body ok
    obtain ⟨walk, pass⟩ := passed body ok
    exact ⟨walk, pass.explores.covers start distinct, pass.linksIn⟩

theorem partEntry_traverses (plain : ctx.handlers = .none)
    (readable : ∀ p ∈ graph.parts.values, Readable p.hyperlinks p.externals) {part : Part}
    (inside : graph.get? part.uri = some part) {result : Except Failure Routine} {w : PartWork}
    (ran : partEntry ctx graph part (.start (.start false)) = (result, w)) :
    Traverses graph [part.uri] (some part.uri) partName part.children (result.map (·.body))
      w.blueprints := by
  refine traverses_of [part] (.of_get? inside) (by simp) (fun failure error => ?_) fun body ok => ?_
  · cases result with
    | error failure' =>
      obtain rfl := Except.error.inj error
      rcases partEntry_error plain inside ran with ⟨e, leads, stops⟩ | ⟨fault, unread, _⟩
      · exact ⟨e, leads, stops.of_readable readable⟩
      · exact ((readable part (Graph.mem_values inside)).not_unreadable unread).elim
    | ok r => cases error
  · cases result with
    | error failure => cases ok
    | ok r =>
      obtain rfl := Except.ok.inj ok
      exact (partEntry_ok plain inside ran).2.2

theorem packageEntries_traverses (plain : ctx.handlers = .none)
    (readable : ∀ p ∈ graph.parts.values, Readable p.hyperlinks p.externals) {package : Package}
    (own : Readable package.hyperlinks package.externals)
    {result : Except Failure (Routine × Routine)} {w : PartWork}
    (ran : packageEntries ctx graph package (.start (.start false)) = (result, w)) :
    Traverses graph [] none packageName package.children (result.map (·.2.body)) w.blueprints := by
  refine traverses_of [] ⟨nofun, nofun⟩ List.nodup_nil (fun failure error => ?_)
    fun body ok => ?_
  · cases result with
    | error failure' =>
      obtain rfl := Except.error.inj error
      rcases packageEntries_error plain ran with ⟨e, leads, stops⟩ | ⟨fault, unread, _⟩
      · exact ⟨e, leads, stops.of_readable readable⟩
      · exact (own.not_unreadable unread).elim
    | ok r => cases error
  · cases result with
    | error failure => cases ok
    | ok r =>
      obtain rfl := Except.ok.inj ok
      exact (packageEntries_ok plain ran).2.2.2

/-- A pass that is not cancelled, from a part of a graph or from a package, preserves the graph. -/
theorem entries_traverse (plain : ctx.handlers = .none)
    (readable : ∀ p ∈ graph.parts.values, Readable p.hyperlinks p.externals) :
    (∀ part, graph.get? part.uri = some part → ∀ result w,
      partEntry ctx graph part (.start (.start false)) = (result, w) →
      Traverses graph [part.uri] (some part.uri) partName part.children (result.map (·.body))
        w.blueprints) ∧
    ∀ package : Package, Readable package.hyperlinks package.externals → ∀ result w,
      packageEntries ctx graph package (.start (.start false)) = (result, w) →
      Traverses graph [] none packageName package.children (result.map (·.2.body)) w.blueprints :=
  ⟨fun _ inside _ _ ran => partEntry_traverses plain readable inside ran,
    fun _ own _ _ ran => packageEntries_traverses plain readable own ran⟩

def hub (uri : String) (children : List Edge) : Part :=
  ⟨uri, .plain "N" "P", none, .none, children, [], []⟩

/-- Two edges to one part, from which an edge leads back. -/
def ringStart : Part := hub "/a" [⟨"r1", "/b"⟩, ⟨"r2", "/b"⟩, ⟨"r3", "/a"⟩]

/-- A graph with a shared part, a cycle and an edge from a part to itself. -/
def ring : Graph := (Graph.empty.add ringStart).add (hub "/b" [⟨"r4", "/a"⟩])

/-- A package whose only edge leads into the ring. -/
def ringPackage : Package := ⟨.plain "N" "Q", ring, [⟨"r0", "/b"⟩], [], []⟩

def ringContext : Context :=
  ⟨.standard, ⟨.empty, .empty, .empty, .empty, [], Schema.standardRawKind, .standard⟩, .none⟩

example : ((partEntry ringContext ring ringStart (.start (.start false))).1.map fun r => linksIn r.body) =
    .ok [⟨true, "part", "p1", some "r1"⟩, ⟨false, "p1", "part", some "r4"⟩,
      ⟨false, "part", "p1", some "r2"⟩, ⟨false, "part", "part", some "r3"⟩] := by
  cbv

/-- A pass from a part of the ring ends well, and so does one from a package. -/
theorem ring_traversed :
    (∃ entry w, partEntry ringContext ring ringStart (.start (.start false)) = (.ok entry, w) ∧
      Traverses ring ["/a"] (some "/a") partName ringStart.children (.ok entry.body)
        w.blueprints) ∧
    ∃ entry parts w, packageEntries ringContext ring ringPackage (.start (.start false)) =
        (.ok (entry, parts), w) ∧
      Traverses ring [] none packageName ringPackage.children (.ok parts.body) w.blueprints := by
  have readable : ∀ p ∈ ring.parts.values, Readable p.hyperlinks p.externals := by decide
  have own : Readable ringPackage.hyperlinks ringPackage.externals := by decide
  have plain : ringContext.handlers = .none := rfl
  have inside : ring.get? "/a" = some ringStart := by rfl
  obtain ⟨fromPart, fromPackage⟩ := entries_traverse plain readable
  constructor
  · obtain ⟨entry, w, ran⟩ : ∃ entry w,
        partEntry ringContext ring ringStart (.start (.start false)) = (.ok entry, w) :=
      Step.exists_ok (by cbv)
    exact ⟨entry, w, ran, fromPart ringStart inside _ w ran⟩
  · obtain ⟨⟨entry, parts⟩, w, ran⟩ : ∃ entries w,
        packageEntries ringContext ring ringPackage (.start (.start false)) = (.ok entries, w) :=
      Step.exists_ok (by cbv)
    exact ⟨entry, parts, w, ran, fromPackage ringPackage own _ w ran⟩

end Compile

end DocScript
