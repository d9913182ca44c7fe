import DocScript.Document.Graph
import DocScript.Proofs.OrderedMap

/-!
# Depth-first order

The edges of a container are walked in order. Where an edge leads to a part for the first time, the
edges of that part come next; where it leads to a known part, nothing comes of it. From a start
where no part is known but the one at the start, this walks every edge that can be reached, once.
-/

namespace DocScript

namespace Graph

variable {graph : Graph} {start : List Edge} {uri : String} {p q : Part} {e f : Edge}

theorem uri_of_get? (h : graph.get? uri = some p) : p.uri = uri :=
  (graph.keyed (uri, p) (lookupEntry_mem h)).symm

theorem get?_uri (h : graph.get? uri = some p) : graph.get? p.uri = some p := by
  rw [uri_of_get? h]
  exact h

theorem mem_values (h : graph.get? uri = some p) : p ∈ graph.parts.values :=
  List.mem_map.mpr ⟨(uri, p), lookupEntry_mem h, rfl⟩

/-- The edges at the start and those of every part that they lead to. -/
inductive Leads (graph : Graph) (start : List Edge) : Edge → Prop
  | here {e : Edge} (member : e ∈ start) : Leads graph start e
  | there {e f : Edge} {p : Part} (leads : Leads graph start e)
      (found : graph.get? e.target = some p) (member : f ∈ p.children) : Leads graph start f

theorem Leads.trans (leads : graph.Leads start e) (found : graph.get? e.target = some p)
    (h : graph.Leads p.children f) : graph.Leads start f := by
  induction h with
  | here member => exact .there leads found member
  | there _ found member ih => exact .there ih found member

theorem Leads.mono {more : List Edge} (h : graph.Leads start e) (sub : start ⊆ more) :
    graph.Leads more e := by
  induction h with
  | here member => exact .here (sub member)
  | there _ found member ih => exact .there ih found member

end Graph

/-- An edge that was walked, from a part or else from a package, and the part that it leads to. The
flag says that no edge led there before. -/
structure Walked where
  owner : Option String
  edge : Edge
  part : Part
  first : Bool

namespace Walked

/-- The parts that were found on a walk, in order. -/
def found (walk : List Walked) : List Part := (walk.filter (·.first)).map (·.part)

def edgesOf (owner : Option String) (walk : List Walked) : List Edge :=
  (walk.filter (·.owner = owner)).map (·.edge)

@[simp] theorem found_nil : found [] = [] := rfl

@[simp] theorem found_append (walk more : List Walked) :
    found (walk ++ more) = found walk ++ found more := by
  simp [found]

@[simp] theorem found_again (owner : Option String) (e : Edge) (p : Part) (walk : List Walked) :
    found (⟨owner, e, p, false⟩ :: walk) = found walk := rfl

@[simp] theorem found_first (owner : Option String) (e : Edge) (p : Part) (walk : List Walked) :
    found (⟨owner, e, p, true⟩ :: walk) = p :: found walk := rfl

theorem mem_found {walk : List Walked} {p : Part} :
    p ∈ found walk ↔ ∃ v ∈ walk, v.first = true ∧ v.part = p := by
  simp [found, and_assoc]

@[simp] theorem edgesOf_append (owner : Option String) (walk more : List Walked) :
    edgesOf owner (walk ++ more) = edgesOf owner walk ++ edgesOf owner more := by
  simp [edgesOf]

theorem edgesOf_cons_self (v : Walked) (walk : List Walked) :
    edgesOf v.owner (v :: walk) = v.edge :: edgesOf v.owner walk := by
  simp [edgesOf]

theorem edgesOf_cons_of_ne {owner : Option String} {v : Walked} (walk : List Walked)
    (h : v.owner ≠ owner) : edgesOf owner (v :: walk) = edgesOf owner walk := by
  simp [edgesOf, h]

theorem mem_edgesOf {owner : Option String} {walk : List Walked} {e : Edge}
    (h : e ∈ edgesOf owner walk) : ∃ v ∈ walk, v.edge = e := by
  obtain ⟨v, member, rfl⟩ := List.mem_map.mp h
  exact ⟨v, (List.mem_filter.mp member).1, rfl⟩

end Walked

open Walked

/-- The edges of a container are walked depth-first. The addresses of the parts that are known
before the walk are followed by those of the parts that are found on it. -/
inductive Explores (graph : Graph) :
    List String → Option String → List Edge → List Walked → List String → Prop
  | done (seen : List String) (owner : Option String) : Explores graph seen owner [] [] seen
  | again {seen last : List String} {owner : Option String} {e : Edge} {rest : List Edge}
      {p : Part} {walk : List Walked} (found : graph.get? e.target = some p) (known : p.uri ∈ seen)
      (others : Explores graph seen owner rest walk last) :
      Explores graph seen owner (e :: rest) (⟨owner, e, p, false⟩ :: walk) last
  | first {seen middle last : List String} {owner : Option String} {e : Edge} {rest : List Edge}
      {p : Part} {walk more : List Walked} (found : graph.get? e.target = some p)
      (fresh : p.uri ∉ seen)
      (below : Explores graph (seen ++ [p.uri]) (some p.uri) p.children walk middle)
      (others : Explores graph middle owner rest more last) :
      Explores graph seen owner (e :: rest) (⟨owner, e, p, true⟩ :: (walk ++ more)) last

namespace Explores

variable {graph : Graph} {seen last : List String} {owner : Option String} {es : List Edge}
  {walk : List Walked} {p : Part}

/-- What is known after a walk is what was known before and what was found. -/
theorem last_eq (h : Explores graph seen owner es walk last) :
    last = seen ++ (found walk).map (·.uri) := by
  induction h with
  | done => simp
  | again _ _ _ ih => simpa using ih
  | first _ _ _ _ below others => simp [others, below, List.append_assoc]

theorem nodup (h : Explores graph seen owner es walk last) (distinct : seen.Nodup) : last.Nodup := by
  induction h with
  | done => exact distinct
  | again _ _ _ ih => exact ih distinct
  | first _ fresh _ _ below others =>
    refine others (below (List.nodup_append.mpr ⟨distinct, by simp, ?_⟩))
    rintro u old x new rfl
    rw [List.mem_singleton] at new
    exact fresh (new ▸ old)

theorem seen_subset (h : Explores graph seen owner es walk last) : seen ⊆ last := by
  rw [h.last_eq]
  exact List.subset_append_left _ _

theorem found_subset (h : Explores graph seen owner es walk last) (member : p ∈ found walk) :
    p.uri ∈ last := by
  rw [h.last_eq]
  exact List.mem_append_right _ (List.mem_map.mpr ⟨p, member, rfl⟩)

theorem found_fresh (h : Explores graph seen owner es walk last) (member : p ∈ found walk) :
    p.uri ∉ seen := by
  induction h with
  | done => cases member
  | again _ _ _ ih => exact ih member
  | first _ fresh first _ below others =>
    rw [found_first, found_append, List.mem_cons, List.mem_append] at member
    rcases member with rfl | early | late
    · exact fresh
    · exact fun old => below early (List.mem_append_left _ old)
    · exact fun old => others late (first.seen_subset (List.mem_append_left _ old))

/-- An edge on a walk leads to a part of the graph, which is known after it. -/
theorem target (h : Explores graph seen owner es walk last) {v : Walked} (member : v ∈ walk) :
    graph.get? v.edge.target = some v.part ∧ v.part.uri ∈ last := by
  induction h with
  | done => cases member
  | again found known others ih =>
    rcases List.mem_cons.mp member with rfl | later
    · exact ⟨found, others.seen_subset known⟩
    · exact ih later
  | first found _ first others below ih =>
    rcases List.mem_cons.mp member with rfl | later
    · exact ⟨found, others.seen_subset (first.seen_subset (by simp))⟩
    · rcases List.mem_append.mp later with early | late
      · exact ⟨(below early).1, others.seen_subset (below early).2⟩
      · exact ih late

theorem found_get? (h : Explores graph seen owner es walk last) (member : p ∈ found walk) :
    graph.get? p.uri = some p := by
  obtain ⟨v, walked, _, rfl⟩ := mem_found.mp member
  exact Graph.get?_uri (h.target walked).1

/-! ### Each edge once -/

/-- A container that is neither at the start nor found has no edges on the walk. -/
theorem edgesOf_other (h : Explores graph seen owner es walk last) {other : Option String}
    (start : owner ≠ other) (unknown : ∀ p ∈ found walk, some p.uri ≠ other) :
    edgesOf other walk = [] := by
  induction h with
  | done => rfl
  | again _ _ _ ih =>
    rw [edgesOf_cons_of_ne _ start]
    exact ih start unknown
  | first _ _ _ _ below others =>
    rw [found_first, found_append] at unknown
    rw [edgesOf_cons_of_ne _ start, edgesOf_append,
      below (unknown _ List.mem_cons_self)
        fun q member => unknown q (List.mem_cons_of_mem _ (List.mem_append_left _ member)),
      others start
        fun q member => unknown q (List.mem_cons_of_mem _ (List.mem_append_right _ member))]
    rfl

/-- The edges at the start are all on the walk, in order. -/
theorem edgesOf_start (h : Explores graph seen owner es walk last)
    (known : ∀ uri, owner = some uri → uri ∈ seen) : edgesOf owner walk = es := by
  induction h with
  | done => rfl
  | again _ _ _ ih => rw [edgesOf_cons_self ⟨_, _, _, _⟩, ih known]
  | first _ fresh first _ _ others =>
    rw [edgesOf_cons_self ⟨_, _, _, _⟩, edgesOf_append,
      first.edgesOf_other (fun same => fresh (known _ same.symm))
        fun q member same => first.found_fresh member (List.mem_append_left _ (known _ same.symm)),
      others fun uri same => first.seen_subset (List.mem_append_left _ (known uri same)),
      List.nil_append]

/-- The edges of a part that is found are all on the walk, in order. -/
theorem edgesOf_found (h : Explores graph seen owner es walk last)
    (known : ∀ uri, owner = some uri → uri ∈ seen) (member : p ∈ found walk) :
    edgesOf (some p.uri) walk = p.children := by
  have other := fun (same : owner = some p.uri) => h.found_fresh member (known _ same)
  induction h with
  | done => cases member
  | again _ _ _ ih =>
    rw [edgesOf_cons_of_ne _ other]
    exact ih known member other
  | @first seen middle _ _ _ _ q _ _ _ _ first second below others =>
    have known' : q.uri ∈ middle := first.seen_subset (by simp)
    rw [edgesOf_cons_of_ne _ other, edgesOf_append]
    rw [found_first, found_append, List.mem_cons, List.mem_append] at member
    -- The part is this one, or it is found below this one, or after it: the edges of a part stay
    -- within the stretch of the walk on which the part was found.
    rcases member with rfl | early | late
    · have after := second.edgesOf_other other fun r member same =>
        second.found_fresh member (Option.some.inj same ▸ known')
      rw [first.edgesOf_start (by simp), after, List.append_nil]
    · have after := second.edgesOf_other other fun r member same =>
        second.found_fresh member (Option.some.inj same ▸ first.found_subset early)
      have apart : some q.uri ≠ some p.uri := fun same =>
        first.found_fresh early (by simp [Option.some.inj same])
      rw [below (by simp) early apart, after, List.append_nil]
    · have before : edgesOf (some p.uri) _ = [] := first.edgesOf_other
        (fun same => second.found_fresh late (Option.some.inj same ▸ known'))
        fun r member same => second.found_fresh late (Option.some.inj same ▸ first.found_subset member)
      have later : ∀ uri, _ = some uri → uri ∈ middle := fun uri same =>
        first.seen_subset (List.mem_append_left _ (known uri same))
      rw [before, others later late other, List.nil_append]

/-! ### What can be reached -/

theorem leads (h : Explores graph seen owner es walk last) {v : Walked} (member : v ∈ walk) :
    graph.Leads es v.edge := by
  induction h with
  | done => cases member
  | again _ _ _ ih =>
    rcases List.mem_cons.mp member with rfl | later
    · exact .here List.mem_cons_self
    · exact (ih later).mono (List.subset_cons_self _ _)
  | first found _ _ _ below others =>
    rcases List.mem_cons.mp member with rfl | later
    · exact .here List.mem_cons_self
    · rcases List.mem_append.mp later with early | late
      · exact Graph.Leads.trans (.here List.mem_cons_self) found (below early)
      · exact (others late).mono (List.subset_cons_self _ _)

/-- At the start no part is known but the one whose edges are walked. -/
def Starts (graph : Graph) (seen : List String) (owner : Option String) (es : List Edge) : Prop :=
  (∀ uri, owner = some uri → uri ∈ seen) ∧
    ∀ uri ∈ seen, owner = some uri ∧ ∃ p, graph.get? uri = some p ∧ p.children = es

theorem Starts.of_get? (inside : graph.get? p.uri = some p) :
    Starts graph [p.uri] (some p.uri) p.children := by
  refine ⟨fun uri same => ?_, fun uri member => ?_⟩
  · rw [Option.some.inj same]
    exact List.mem_singleton_self _
  · rw [List.mem_singleton.mp member]
    exact ⟨rfl, p, inside, rfl⟩

/-- Every edge that can be reached is on the walk. -/
theorem walked (h : Explores graph seen owner es walk last) (start : Starts graph seen owner es)
    {e : Edge} (leads : graph.Leads es e) : ∃ v ∈ walk, v.edge = e := by
  induction leads with
  | here member =>
    rw [← h.edgesOf_start start.1] at member
    exact mem_edgesOf member
  | there _ get member ih =>
    obtain ⟨v, walked, rfl⟩ := ih
    obtain ⟨get', reached⟩ := h.target walked
    obtain rfl := Option.some.inj (get.symm.trans get')
    -- The target was known at the start, and then it is the start, or it was found on the walk.
    rw [h.last_eq, List.mem_append, List.mem_map] at reached
    rcases reached with old | ⟨q, new, same⟩
    · obtain ⟨_, q, found, children⟩ := start.2 _ old
      obtain rfl := Option.some.inj ((Graph.get?_uri get).symm.trans found)
      rw [children, ← h.edgesOf_start start.1] at member
      exact mem_edgesOf member
    · have found := h.found_get? new
      rw [same] at found
      obtain rfl := Option.some.inj ((Graph.get?_uri get).symm.trans found)
      rw [← h.edgesOf_found start.1 new] at member
      exact mem_edgesOf member

/-- What is known in the end is what was known at the start and what can be reached. -/
theorem mem_last (h : Explores graph seen owner es walk last) (start : Starts graph seen owner es)
    {uri : String} : uri ∈ last ↔ uri ∈ seen ∨ ∃ e, graph.Leads es e ∧ e.target = uri := by
  constructor
  · intro member
    rw [h.last_eq, List.mem_append, List.mem_map] at member
    rcases member with old | ⟨p, new, rfl⟩
    · exact Or.inl old
    · obtain ⟨v, walked, _, rfl⟩ := mem_found.mp new
      exact Or.inr ⟨v.edge, h.leads walked, (Graph.uri_of_get? (h.target walked).1).symm⟩
  · rintro (old | ⟨e, leads, rfl⟩)
    · exact h.seen_subset old
    · obtain ⟨v, walked, rfl⟩ := h.walked start leads
      obtain ⟨found, reached⟩ := h.target walked
      rwa [Graph.uri_of_get? found] at reached

/-- Every edge on the walk belongs to the container at the start or to a part that is known in the
end. -/
theorem owner_eq (h : Explores graph seen owner es walk last) {v : Walked} (member : v ∈ walk) :
    v.owner = owner ∨ ∃ uri ∈ last, v.owner = some uri := by
  induction h with
  | done => cases member
  | again _ _ _ ih =>
    rcases List.mem_cons.mp member with rfl | later
    · exact Or.inl rfl
    · exact ih later
  | @first _ middle _ _ _ _ q _ _ _ _ first second below others =>
    rcases List.mem_cons.mp member with rfl | later
    · exact Or.inl rfl
    · rcases List.mem_append.mp later with early | late
      · rcases below early with own | ⟨uri, known, own⟩
        · exact Or.inr ⟨q.uri, second.seen_subset (first.seen_subset (by simp)), own⟩
        · exact Or.inr ⟨uri, second.seen_subset known, own⟩
      · exact others late

end Explores

/-- The edges that can be reached are walked depth-first, each once, and what is known in the end is
what can be reached. -/
structure Covers (graph : Graph) (seen : List String) (owner : Option String) (es : List Edge)
    (walk : List Walked) (last : List String) : Prop where
  order : Explores graph seen owner es walk last
  distinct : last.Nodup
  reached : ∀ uri, uri ∈ last ↔ uri ∈ seen ∨ ∃ e, graph.Leads es e ∧ e.target = uri
  start : edgesOf owner walk = es
  below : ∀ uri ∈ last, ∀ p, graph.get? uri = some p → edgesOf (some uri) walk = p.children
  only : ∀ v ∈ walk, v.owner = owner ∨ ∃ uri ∈ last, v.owner = some uri

theorem Explores.covers {graph : Graph} {seen last : List String} {owner : Option String}
    {es : List Edge} {walk : List Walked} (h : Explores graph seen owner es walk last)
    (start : Explores.Starts graph seen owner es) (distinct : seen.Nodup) :
    Covers graph seen owner es walk last where
  order := h
  distinct := h.nodup distinct
  reached _ := h.mem_last start
  start := h.edgesOf_start start.1
  below := by
    intro uri member p found
    rw [h.last_eq, List.mem_append, List.mem_map] at member
    rcases member with old | ⟨q, new, rfl⟩
    · obtain ⟨own, q, found', rfl⟩ := start.2 uri old
      obtain rfl := Option.some.inj (found.symm.trans found')
      rw [← own]
      exact h.edgesOf_start start.1
    · obtain rfl := Option.some.inj (found.symm.trans (h.found_get? new))
      exact h.edgesOf_found start.1 new
  only _ := h.owner_eq

end DocScript
