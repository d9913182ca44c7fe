import DocScript.Proofs.Naming.Clash
import DocScript.Proofs.Schema.Build

/-!
# The order of declarations

Two schemas with the same declarations in different orders have registries that agree on all that
a run asks of them: what is declared under a type, and which names are known in a namespace. The
names are kept in a list whose order does depend on the schema, so what counts there is membership.
-/

namespace DocScript

/-- Two schemas with the same declarations, in any order. -/
structure Schema.Permuted (s s' : Schema) : Prop where
  elements : s.elements.Perm s'.elements
  enums : s.enums.Perm s'.enums
  parts : s.parts.Perm s'.parts
  packages : s.packages.Perm s'.packages
  types : s.types.Perm s'.types
  rawKind : s.rawKind = s'.rawKind
  bag : s.bag = s'.bag

theorem Schema.Permuted.symm {s s' : Schema} (h : s.Permuted s') : s'.Permuted s :=
  ⟨h.elements.symm, h.enums.symm, h.parts.symm, h.packages.symm, h.types.symm, h.rawKind.symm,
    h.bag.symm⟩

/-- Two registries in which the same is found and the same names are known. -/
structure Registry.Agrees (r r' : Registry) : Prop where
  element : ∀ t, r.element? t = r'.element? t
  part : ∀ t, r.part? t = r'.part? t
  package : ∀ t, r.package? t = r'.package? t
  mentioned : ∀ t, t ∈ r.mentioned ↔ t ∈ r'.mentioned
  rawKind : r.rawKind = r'.rawKind
  bag : r.bag = r'.bag

theorem TypeId.mem_partsAll {t : TypeId} {ts : List TypeId} :
    t ∈ partsAll ts ↔ ∃ u ∈ ts, t ∈ parts u := by
  induction ts with
  | nil => simp [partsAll]
  | cons u rest ih => simp [partsAll, ih]

namespace Registry

variable {s s' : Schema} {r r' : Registry}

theorem mem_mentions {elements : OrderedMap TypeId ResolvedElement} {t : TypeId} :
    t ∈ mentions s elements ↔
      (∃ e ∈ s.enums, e.type = t) ∨
      (∃ key e, elements.get? key = some e ∧ t ∈ elementMentions e) ∨
      (∃ p ∈ s.parts, t ∈ containerMentions p.type p.additions) ∨
      (∃ p ∈ s.packages, t ∈ containerMentions p.type p.additions) ∨
      t ∈ s.types ∨ t = s.rawKind ∨ t = s.bag.type := by
  have values : (∃ e ∈ elements.values, t ∈ elementMentions e) ↔
      ∃ key e, elements.get? key = some e ∧ t ∈ elementMentions e := by
    constructor
    · rintro ⟨e, member, mentioned⟩
      obtain ⟨key, found⟩ := OrderedMap.mem_values_iff.mp member
      exact ⟨key, e, found, mentioned⟩
    · rintro ⟨key, e, found, mentioned⟩
      exact ⟨e, OrderedMap.mem_values_iff.mpr ⟨key, found⟩, mentioned⟩
  simp only [mentions, List.mem_append, List.mem_map, List.mem_flatMap, List.mem_cons,
    List.not_mem_nil, or_false, values, or_assoc]

theorem mem_mentions_congr {elements elements' : OrderedMap TypeId ResolvedElement}
    (h : s.Permuted s') (same : ∀ t, elements.get? t = elements'.get? t) (t : TypeId) :
    t ∈ mentions s elements ↔ t ∈ mentions s' elements' := by
  rw [mem_mentions, mem_mentions]
  simp only [h.enums.mem_iff, same, h.parts.mem_iff, h.packages.mem_iff, h.types.mem_iff,
    h.rawKind, h.bag]

/-- A schema in another order has a registry if the schema has one. -/
theorem build_permuted (h : s.Permuted s') (built : build s = .ok r) :
    ∃ r', build s' = .ok r' := by
  obtain ⟨enums, elements, parts, packages, -⟩ := build_ok built
  obtain ⟨enums', declared⟩ :=
    declareAll_total .enumTwice ((declareAll_ok enums).1.perm h.enums)
  have same := get?_declareAll_perm h.enums enums declared
  refine build_total declared ?_ ((declareAll_ok parts).1.perm h.parts)
    ((declareAll_ok packages).1.perm h.packages)
  obtain ⟨fresh, nodup, resolves⟩ := (declareAll_ok elements).1.perm h.elements
  refine ⟨fresh, nodup, fun spec member => ?_⟩
  rw [← ElementSpec.resolve_congr same]
  exact resolves spec member

theorem build_agrees (h : s.Permuted s') (built : build s = .ok r) (built' : build s' = .ok r') :
    r.Agrees r' := by
  obtain ⟨enums, elements, parts, packages, mentioned, rawKind, bag⟩ := build_ok built
  obtain ⟨enums', elements', parts', packages', mentioned', rawKind', bag'⟩ := build_ok built'
  have codes := get?_declareAll_perm h.enums enums enums'
  have resolved : (fun spec : ElementSpec => spec.resolve r.enums) =
      fun spec => spec.resolve r'.enums :=
    funext fun spec => ElementSpec.resolve_congr codes spec
  rw [resolved] at elements
  have found := get?_declareAll_perm h.elements elements elements'
  refine ⟨found, get?_declareAll_perm h.parts parts parts',
    get?_declareAll_perm h.packages packages packages', fun t => ?_, ?_, ?_⟩
  · rw [mentioned, mentioned', TypeId.mem_partsAll, TypeId.mem_partsAll]
    simp only [mem_mentions_congr h found]
  · rw [rawKind, rawKind', h.rawKind]
  · rw [bag, bag', h.bag]

namespace Agrees

theorem refl (r : Registry) : r.Agrees r :=
  ⟨fun _ => rfl, fun _ => rfl, fun _ => rfl, fun _ => Iff.rfl, rfl, rfl⟩

theorem prefixOf? (h : r.Agrees r') (t : TypeId) : r.prefixOf? t = r'.prefixOf? t := by
  rw [Registry.prefixOf?, Registry.prefixOf?, h.element]

theorem hasName (h : r.Agrees r') (space name : String) :
    r.hasName space name = r'.hasName space name := by
  rw [Bool.eq_iff_iff, Namespaces.hasName_iff, Namespaces.hasName_iff]
  simp only [h.mentioned]

theorem any_namesIn (h : r.Agrees r') (space : String) (test : String → Bool) :
    (r.namesIn space).any test = (r'.namesIn space).any test := by
  rw [Bool.eq_iff_iff, List.any_eq_true, List.any_eq_true]
  simp only [Namespaces.mem_namesIn, h.hasName]

theorem collides (h : r.Agrees r') (ns : Namespaces) (t : TypeId) :
    Namespaces.collides r ns t = Namespaces.collides r' ns t := by
  simp only [Namespaces.collides, h.any_namesIn, h.hasName]

theorem wantedAlias (h : r.Agrees r') (t : TypeId) :
    Namespaces.wantedAlias r t = Namespaces.wantedAlias r' t := by
  rw [Namespaces.wantedAlias, Namespaces.wantedAlias, h.prefixOf?]

theorem chooseAlias (h : r.Agrees r') (ns : Namespaces) (t : TypeId) :
    Namespaces.chooseAlias r ns t = Namespaces.chooseAlias r' ns t := by
  simp only [Namespaces.chooseAlias, h.wantedAlias]

theorem registerSpace (h : r.Agrees r') (ns : Namespaces) (t : TypeId) :
    Namespaces.registerSpace r ns t = Namespaces.registerSpace r' ns t := by
  simp only [Namespaces.registerSpace, h.collides, h.chooseAlias]

mutual

theorem register (h : r.Agrees r') (ns : Namespaces) :
    ∀ t : TypeId, Namespaces.register r ns t = Namespaces.register r' ns t
  | ⟨_, _, args⟩ => by
    rw [Namespaces.register, Namespaces.register, registerAll h ns args, h.registerSpace]

theorem registerAll (h : r.Agrees r') (ns : Namespaces) :
    ∀ ts : List TypeId, Namespaces.registerAll r ns ts = Namespaces.registerAll r' ns ts
  | [] => by rw [Namespaces.registerAll, Namespaces.registerAll]
  | t :: rest => by
    rw [Namespaces.registerAll, Namespaces.registerAll, register h ns t, registerAll h _ rest]

end

end Agrees

end Registry

end DocScript
