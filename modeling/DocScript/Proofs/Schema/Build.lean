import DocScript.Proofs.OrderedMap
import DocScript.Proofs.Step
import DocScript.Schema.Registry

/-!
# Which schemas have a registry

A schema has a registry if no type is declared twice in one role and each element can be resolved.
What a registry finds under a type is the declaration of the type, wherever that stands, so two
schemas that differ only in the order of their declarations have registries that agree.
-/

namespace DocScript

section Declarations

variable {σ ρ : Type} {type : σ → TypeId} {twice : TypeId → SchemaFault}
  {resolve : σ → Except SchemaFault ρ} {m m' : OrderedMap TypeId ρ} {xs ys : List σ}

/-- Declarations can be entered into a map: their types are new, and each of them resolves. -/
structure Declarable (type : σ → TypeId) (resolve : σ → Except SchemaFault ρ)
    (m : OrderedMap TypeId ρ) (xs : List σ) : Prop where
  fresh : ∀ x ∈ xs, type x ∉ m.keys
  nodup : (xs.map type).Nodup
  resolves : ∀ x ∈ xs, ∃ r, resolve x = .ok r

theorem declareAll_ok (h : declareAll type twice resolve m xs = .ok m') :
    Declarable type resolve m xs ∧
      ∀ t r, m'.get? t = some r ↔ m.get? t = some r ∨ ∃ x ∈ xs, type x = t ∧ resolve x = .ok r := by
  induction xs generalizing m with
  | nil =>
    obtain rfl := Except.ok.inj h
    exact ⟨⟨nofun, List.nodup_nil, nofun⟩, by simp⟩
  | cons x rest ih =>
    rw [declareAll] at h
    split at h
    · cases h
    · next new =>
      have absent : type x ∉ m.keys := by
        rwa [OrderedMap.contains_iff_mem_keys] at new
      cases found : resolve x with
      | error fault =>
        rw [found] at h
        cases h
      | ok r =>
        rw [found] at h
        obtain ⟨later, finds⟩ := ih h
        have keys := OrderedMap.keys_insert m (type x) r
        rw [if_neg absent] at keys
        refine ⟨⟨?_, ?_, ?_⟩, fun t value => ?_⟩
        · refine List.forall_mem_cons.mpr ⟨absent, fun y member known => later.fresh y member ?_⟩
          rw [keys]
          exact List.mem_append_left _ known
        · refine List.nodup_cons.mpr ⟨fun again => ?_, later.nodup⟩
          obtain ⟨y, member, same⟩ := List.mem_map.mp again
          apply later.fresh y member
          rw [keys, same]
          exact List.mem_append_right _ List.mem_cons_self
        · exact List.forall_mem_cons.mpr ⟨⟨r, found⟩, later.resolves⟩
        · rw [finds, OrderedMap.get?_insert]
          by_cases same : type x = t
          · subst same
            have none := OrderedMap.get?_eq_none.mpr absent
            simp [none, found]
          · simp [same]

theorem declareAll_total (twice : TypeId → SchemaFault) (h : Declarable type resolve m xs) :
    ∃ m', declareAll type twice resolve m xs = .ok m' := by
  induction xs generalizing m with
  | nil => exact ⟨m, rfl⟩
  | cons x rest ih =>
    have absent := h.fresh x List.mem_cons_self
    have new : ¬ m.contains (type x) = true := fun known =>
      absent (OrderedMap.contains_iff_mem_keys.mp known)
    obtain ⟨r, found⟩ := h.resolves x List.mem_cons_self
    obtain ⟨different, nodup⟩ := List.nodup_cons.mp h.nodup
    have keys := OrderedMap.keys_insert m (type x) r
    rw [if_neg absent] at keys
    rw [declareAll, if_neg new, found]
    refine ih ⟨fun y member known => ?_, nodup, fun y member =>
      h.resolves y (List.mem_cons_of_mem _ member)⟩
    rw [keys] at known
    rcases List.mem_append.mp known with before | same
    · exact h.fresh y (List.mem_cons_of_mem _ member) before
    · exact different (List.mem_map.mpr ⟨y, member, List.mem_singleton.mp same⟩)

theorem Declarable.perm (h : Declarable type resolve m xs) (perm : xs.Perm ys) :
    Declarable type resolve m ys :=
  ⟨fun y member => h.fresh y (perm.mem_iff.mpr member), (perm.map type).nodup h.nodup,
    fun y member => h.resolves y (perm.mem_iff.mpr member)⟩

/-- Declarations that only the order tells apart give maps in which the same is found. -/
theorem get?_declareAll_perm (perm : xs.Perm ys) {n n' : OrderedMap TypeId ρ}
    (h : declareAll type twice resolve m xs = .ok n) (h' : declareAll type twice resolve m ys = .ok n')
    (t : TypeId) : n.get? t = n'.get? t := by
  refine Option.ext fun r => ?_
  rw [(declareAll_ok h).2, (declareAll_ok h').2]
  simp only [perm.mem_iff]

end Declarations

namespace ElementSpec

variable {enums enums' : OrderedMap TypeId EnumSpec} {spec : ElementSpec}

/-- How an element is resolved depends only on what is found among the enums. -/
theorem resolve_congr (same : ∀ t, enums.get? t = enums'.get? t) (spec : ElementSpec) :
    spec.resolve enums = spec.resolve enums' := by
  have each (owner : TypeId) (p : Property) : p.resolve enums owner = p.resolve enums' owner := by
    unfold Property.resolve
    split <;> simp only [same]
  have all (ps : List Property) : spec.divide enums ps = spec.divide enums' ps := by
    induction ps with
    | nil => rfl
    | cons p rest ih => rw [divide, divide, each, ih]
  exact all spec.properties

end ElementSpec

namespace Registry

/-- All types that a registry is told of, before their arguments are added. -/
def mentions (s : Schema) (elements : OrderedMap TypeId ResolvedElement) : List TypeId :=
  s.enums.map (·.type) ++ elements.values.flatMap elementMentions
    ++ s.parts.flatMap (fun p => containerMentions p.type p.additions)
    ++ s.packages.flatMap (fun p => containerMentions p.type p.additions)
    ++ s.types ++ [s.rawKind, s.bag.type]

/-- A registry is built in four steps, of which each can fail. -/
theorem build_ok {s : Schema} {r : Registry} (h : build s = .ok r) :
    declareAll EnumSpec.type .enumTwice .ok .empty s.enums = .ok r.enums ∧
    declareAll ElementSpec.type .elementTwice (·.resolve r.enums) .empty s.elements = .ok r.elements ∧
    declareAll PartSpec.type .partTwice .ok .empty s.parts = .ok r.parts ∧
    declareAll PackageSpec.type .packageTwice .ok .empty s.packages = .ok r.packages ∧
    r.mentioned = TypeId.partsAll (mentions s r.elements) ∧ r.rawKind = s.rawKind ∧ r.bag = s.bag := by
  unfold build at h
  obtain ⟨enums, first, h⟩ := except_bind_ok h
  obtain ⟨elements, second, h⟩ := except_bind_ok h
  obtain ⟨parts, third, h⟩ := except_bind_ok h
  obtain ⟨packages, fourth, h⟩ := except_bind_ok h
  obtain rfl := Except.ok.inj h
  exact ⟨first, second, third, fourth, rfl, rfl, rfl⟩

theorem build_total {s : Schema} {enums : OrderedMap TypeId EnumSpec}
    (declared : declareAll EnumSpec.type .enumTwice .ok .empty s.enums = .ok enums)
    (elements : Declarable ElementSpec.type (·.resolve enums) .empty s.elements)
    (parts : Declarable PartSpec.type (Except.ok (ε := SchemaFault)) .empty s.parts)
    (packages : Declarable PackageSpec.type (Except.ok (ε := SchemaFault)) .empty s.packages) :
    ∃ r, build s = .ok r := by
  obtain ⟨els, elements⟩ := declareAll_total .elementTwice elements
  obtain ⟨ps, parts⟩ := declareAll_total .partTwice parts
  obtain ⟨pks, packages⟩ := declareAll_total .packageTwice packages
  refine ⟨⟨els, enums, ps, pks, TypeId.partsAll (mentions s els), s.rawKind, s.bag⟩, ?_⟩
  unfold build
  rw [declared]
  change (declareAll ElementSpec.type .elementTwice (·.resolve enums) .empty s.elements >>= _) = _
  rw [elements]
  change (declareAll PartSpec.type .partTwice .ok .empty s.parts >>= _) = _
  rw [parts]
  change (declareAll PackageSpec.type .packageTwice .ok .empty s.packages >>= _) = _
  rw [packages]
  rfl

end Registry

end DocScript
