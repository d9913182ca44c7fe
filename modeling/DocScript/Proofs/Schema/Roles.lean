import DocScript.Proofs.Schema.Build
import DocScript.Schema.Codec
import Mathlib.Data.List.Forall2

/-!
# Roles of properties

The properties of an element type fall into three roles: simple properties by their kind, enum
properties by their type, which is a declared enum, and complex properties. A schema has a registry
unless a type is declared twice in one section or a property of kind enum names no declared enum.
The registry divides the properties of each element type by their roles, in the order in which they
are declared, and finds what each role needs: a primitive kind, a type, or a declared enum.
-/

namespace DocScript

namespace Property

def kind (p : Property) : Kind := p.parts.1

def primitive? (p : Property) : Option Primitive := p.parts.2.1

def type? (p : Property) : Option TypeId := p.parts.2.2

/-- What the properties of a kind cannot do without is there. -/
def Kind.fits : Kind → Option Primitive → Option TypeId → Bool
  | simple, primitive, _ => primitive.isSome
  | complex, _, type => type.isSome
  | enum, _, type => type.isSome

/-- A property is made of just those parts that fit its kind. -/
theorem ofParts_ok_iff {name : String} {k : Kind} {primitive : Option Primitive}
    {type : Option TypeId} :
    (∃ p, ofParts name k primitive type = .ok p) ↔ k.fits primitive type = true := by
  cases k <;> cases primitive <;> cases type <;> simp [ofParts, Kind.fits]

/-- The role of a property, given which types are declared enums. -/
def role (declared : TypeId → Bool) (p : Property) : Kind :=
  if p.kind = .simple then .simple else if p.type?.any declared then .enum else .complex

/-- A property of kind enum whose type is no declared enum. -/
def Stray (declared : TypeId → Bool) (p : Property) : Prop :=
  p.kind = .enum ∧ ∃ t, p.type? = some t ∧ declared t = false

variable {enums : OrderedMap TypeId EnumSpec} {owner : TypeId} {p : Property}

/-- What a property resolves to goes with its role. -/
def Settled (enums : OrderedMap TypeId EnumSpec) (p : Property) : ResolvedProperty → Prop
  | .simple primitive => p.role enums.contains = .simple ∧ p.primitive? = some primitive
  | .complex type => p.role enums.contains = .complex ∧ p.type? = some type
  | .enum spec =>
    p.role enums.contains = .enum ∧ ∃ type, p.type? = some type ∧ enums.get? type = some spec

theorem resolve_ok {resolved : ResolvedProperty} (h : p.resolve enums owner = .ok resolved) :
    p.Settled enums resolved := by
  obtain ⟨name, form⟩ := p
  cases form with
  | simple primitive type =>
    obtain rfl := Except.ok.inj h
    exact ⟨rfl, rfl⟩
  | complex type primitive =>
    cases found : enums.get? type with
    | some spec =>
      simp only [resolve, found] at h
      obtain rfl := Except.ok.inj h
      exact ⟨by simp [role, kind, type?, parts, OrderedMap.contains, found], type, rfl, found⟩
    | none =>
      simp only [resolve, found] at h
      obtain rfl := Except.ok.inj h
      exact ⟨by simp [role, kind, type?, parts, OrderedMap.contains, found], rfl⟩
  | enum type primitive =>
    cases found : enums.get? type with
    | some spec =>
      simp only [resolve, found] at h
      obtain rfl := Except.ok.inj h
      exact ⟨by simp [role, kind, type?, parts, OrderedMap.contains, found], type, rfl, found⟩
    | none =>
      simp only [resolve, found] at h
      cases h

theorem resolve_total_iff :
    (∃ resolved, p.resolve enums owner = .ok resolved) ↔ ¬ p.Stray enums.contains := by
  obtain ⟨name, form⟩ := p
  cases form with
  | simple primitive type => simp [resolve, Stray, kind, parts]
  | complex type primitive =>
    cases found : enums.get? type <;> simp [resolve, Stray, kind, parts, found]
  | enum type primitive =>
    cases found : enums.get? type <;>
      simp [resolve, Stray, kind, type?, parts, OrderedMap.contains, found]

/-- The properties in one role, in order. -/
def inRole (declared : TypeId → Bool) (role : Kind) (ps : List Property) : List Property :=
  ps.filter (·.role declared = role)

/-- Each property is in just one role. -/
theorem inRole_perm (declared : TypeId → Bool) (ps : List Property) :
    (inRole declared .simple ps ++ inRole declared .complex ps ++ inRole declared .enum ps).Perm ps := by
  have others : (ps.filter fun p => !decide (p.role declared = .simple)).filter
      (·.role declared = .complex) = inRole declared .complex ps := by
    rw [List.filter_filter]
    refine List.filter_congr fun p _ => ?_
    cases p.role declared <;> rfl
  have last : (ps.filter fun p => !decide (p.role declared = .simple)).filter
      (fun p => !decide (p.role declared = .complex)) = inRole declared .enum ps := by
    rw [List.filter_filter]
    refine List.filter_congr fun p _ => ?_
    cases p.role declared <;> rfl
  have rest := List.filter_append_perm (fun p : Property => decide (p.role declared = .complex))
    (ps.filter fun p => !decide (p.role declared = .simple))
  rw [others, last] at rest
  have all := List.filter_append_perm (fun p : Property => decide (p.role declared = .simple)) ps
  rw [List.append_assoc]
  exact (rest.append_left _).trans all

/-- The resolved properties in one role are the declared ones in that role, in the same order, each
with what was found for it. -/
def Matches {α : Type} (finds : Property → α → Prop) (ps : List Property) (qs : List (String × α)) :
    Prop :=
  List.Forall₂ (fun p q => p.name = q.1 ∧ finds p q.2) ps qs

end Property

open Property

variable {enums : OrderedMap TypeId EnumSpec} {spec : ElementSpec} {e : ResolvedElement}

/-- The properties of a resolved element are some declared ones, divided by their roles. -/
structure ResolvedElement.Divides (enums : OrderedMap TypeId EnumSpec) (e : ResolvedElement)
    (ps : List Property) : Prop where
  simple : Matches (·.primitive? = some ·) (inRole enums.contains .simple ps) e.simple
  complex : Matches (·.type? = some ·) (inRole enums.contains .complex ps) e.complex
  enums : Matches (fun p spec => ∃ t, p.type? = some t ∧ enums.get? t = some spec)
    (inRole enums.contains .enum ps) e.enums

theorem ResolvedElement.Divides.add {p : Property} {ps : List Property} {q : ResolvedProperty}
    (h : e.Divides enums ps) (settled : p.Settled enums q) :
    (e.add p.name q).Divides enums (p :: ps) := by
  cases q with
  | simple primitive =>
    obtain ⟨role, found⟩ := settled
    refine ⟨?_, ?_, ?_⟩ <;> simp only [inRole, List.filter_cons, role]
    · exact .cons ⟨rfl, found⟩ h.simple
    · exact h.complex
    · exact h.enums
  | complex type =>
    obtain ⟨role, found⟩ := settled
    refine ⟨?_, ?_, ?_⟩ <;> simp only [inRole, List.filter_cons, role]
    · exact h.simple
    · exact .cons ⟨rfl, found⟩ h.complex
    · exact h.enums
  | enum spec =>
    obtain ⟨role, found⟩ := settled
    refine ⟨?_, ?_, ?_⟩ <;> simp only [inRole, List.filter_cons, role]
    · exact h.simple
    · exact h.complex
    · exact .cons ⟨rfl, found⟩ h.enums

namespace ElementSpec

theorem divide_ok {ps : List Property} (h : spec.divide enums ps = .ok e) :
    e.spec = spec ∧ e.Divides enums ps := by
  induction ps generalizing e with
  | nil =>
    obtain rfl := Except.ok.inj h
    exact ⟨rfl, .nil, .nil, .nil⟩
  | cons p rest ih =>
    rw [divide] at h
    obtain ⟨resolved, first, h⟩ := except_bind_ok h
    obtain ⟨others, below, h⟩ := except_bind_ok h
    obtain rfl := Except.ok.inj h
    obtain ⟨same, divides⟩ := ih below
    exact ⟨by cases resolved <;> exact same, divides.add (resolve_ok first)⟩

theorem divide_total_iff {ps : List Property} :
    (∃ e, spec.divide enums ps = .ok e) ↔ ∀ p ∈ ps, ¬ p.Stray enums.contains := by
  induction ps with
  | nil => exact ⟨fun _ => nofun, fun _ => ⟨_, rfl⟩⟩
  | cons p rest ih =>
    rw [List.forall_mem_cons, ← ih, ← @resolve_total_iff _ spec.type]
    constructor
    · rintro ⟨e, h⟩
      rw [divide] at h
      obtain ⟨resolved, first, h⟩ := except_bind_ok h
      obtain ⟨others, below, -⟩ := except_bind_ok h
      exact ⟨⟨resolved, first⟩, others, below⟩
    · rintro ⟨⟨resolved, first⟩, others, below⟩
      refine ⟨others.add p.name resolved, ?_⟩
      rw [divide, first]
      show (spec.divide enums rest >>= _) = _
      rw [below]
      rfl

theorem resolve_total_iff :
    (∃ e, spec.resolve enums = .ok e) ↔ ∀ p ∈ spec.properties, ¬ p.Stray enums.contains :=
  divide_total_iff

end ElementSpec

/-- The type is a declared enum. -/
def Schema.declaresEnum (s : Schema) (t : TypeId) : Bool := s.enums.any (·.type = t)

/-- No type is declared twice in one section of the schema. -/
structure Schema.Distinct (s : Schema) : Prop where
  enums : (s.enums.map (·.type)).Nodup
  elements : (s.elements.map (·.type)).Nodup
  parts : (s.parts.map (·.type)).Nodup
  packages : (s.packages.map (·.type)).Nodup

namespace Registry

variable {s : Schema} {r : Registry}

theorem contains_declared {enums : OrderedMap TypeId EnumSpec}
    (declared : declareAll EnumSpec.type .enumTwice .ok .empty s.enums = .ok enums) :
    enums.contains = s.declaresEnum := by
  funext t
  rw [Bool.eq_iff_iff, OrderedMap.contains_iff]
  simp only [(declareAll_ok declared).2, OrderedMap.get?_empty, reduceCtorEq, false_or,
    Schema.declaresEnum, List.any_eq_true, decide_eq_true_eq]
  constructor
  · rintro ⟨_, spec, member, same, -⟩
    exact ⟨spec, member, same⟩
  · rintro ⟨spec, member, same⟩
    exact ⟨spec, spec, member, same, rfl⟩

theorem declarable_of_nodup {σ : Type} {type : σ → TypeId} {xs : List σ} {ρ : Type}
    {resolve : σ → Except SchemaFault ρ} (distinct : (xs.map type).Nodup)
    (resolves : ∀ x ∈ xs, ∃ r, resolve x = .ok r) : Declarable type resolve .empty xs :=
  ⟨fun _ _ => List.not_mem_nil, distinct, resolves⟩

/-- A schema has a registry unless a type is declared twice or a property of kind enum names no
declared enum. -/
theorem build_ok_iff :
    (∃ r, build s = .ok r) ↔
      s.Distinct ∧ ∀ spec ∈ s.elements, ∀ p ∈ spec.properties, ¬ p.Stray s.declaresEnum := by
  constructor
  · rintro ⟨r, built⟩
    obtain ⟨enums, elements, parts, packages, -⟩ := build_ok built
    have divided := (declareAll_ok elements).1
    refine ⟨⟨(declareAll_ok enums).1.nodup, divided.nodup, (declareAll_ok parts).1.nodup,
      (declareAll_ok packages).1.nodup⟩, fun spec member => ?_⟩
    rw [← contains_declared enums]
    exact ElementSpec.resolve_total_iff.mp (divided.resolves spec member)
  · rintro ⟨distinct, settled⟩
    have fresh : Declarable EnumSpec.type (Except.ok (ε := SchemaFault)) .empty s.enums :=
      declarable_of_nodup distinct.enums fun spec _ => ⟨spec, rfl⟩
    obtain ⟨enums, declared⟩ := declareAll_total .enumTwice fresh
    refine build_total declared (declarable_of_nodup distinct.elements fun spec member => ?_)
      (declarable_of_nodup distinct.parts fun spec _ => ⟨spec, rfl⟩)
      (declarable_of_nodup distinct.packages fun spec _ => ⟨spec, rfl⟩)
    refine ElementSpec.resolve_total_iff.mpr ?_
    rw [contains_declared declared]
    exact settled spec member

/-- What is found under a type is the declaration of the type, with its properties divided. -/
theorem element?_divides (built : build s = .ok r) {t : TypeId} {e : ResolvedElement}
    (found : r.element? t = some e) :
    e.spec ∈ s.elements ∧ e.spec.type = t ∧ e.Divides r.enums e.spec.properties := by
  obtain ⟨-, elements, -⟩ := build_ok built
  rcases ((declareAll_ok elements).2 t e).mp found with none | ⟨spec, member, same, resolved⟩
  · cases none
  · obtain ⟨rfl, divides⟩ := ElementSpec.divide_ok resolved
    exact ⟨member, same, divides⟩

theorem element?_of_mem (built : build s = .ok r) {spec : ElementSpec} (member : spec ∈ s.elements) :
    ∃ e, r.element? spec.type = some e ∧ e.spec = spec := by
  obtain ⟨-, elements, -⟩ := build_ok built
  obtain ⟨e, resolved⟩ := (declareAll_ok elements).1.resolves spec member
  exact ⟨e, ((declareAll_ok elements).2 _ e).mpr (Or.inr ⟨spec, member, rfl, resolved⟩),
    (ElementSpec.divide_ok resolved).1⟩

end Registry

end DocScript
