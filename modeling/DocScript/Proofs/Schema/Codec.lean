import DocScript.Proofs.Json.Saves

/-!
# Schemas survive being saved

Every part of a schema that was read is written so that it is read again. Most parts name a type,
which leaves room for the members that were left out; a holder of markup-compatibility rules and a
schema may be empty, and need some.
-/

namespace DocScript

open Json

/-- A property of types holds if each type has it whenever its arguments do. -/
theorem TypeId.induction {motive : TypeId → Prop}
    (step : ∀ t : TypeId, (∀ a ∈ t.args, motive a) → motive t) (t : TypeId) : motive t :=
  step t fun a _ => TypeId.induction step a
termination_by sizeOf t
decreasing_by
  obtain ⟨space, name, args⟩ := t
  have smaller := List.sizeOf_lt_of_mem ‹_›
  simp only [TypeId.mk.sizeOf_spec] at smaller ⊢
  omega

namespace TypeId

theorem toJsonAll_eq (ts : List TypeId) : toJsonAll ts = ts.map toJson := by
  induction ts with
  | nil => rfl
  | cons t rest ih => rw [toJsonAll, ih, List.map_cons]

theorem saves (t : TypeId) : Saves 0 ofJson toJson t := by
  induction t using TypeId.induction with
  | step t ih =>
    intro n j _ legible read
    rw [ofJson, model_eq_valid] at read
    obtain ⟨_, read⟩ := read
    simp only [Checked.seq_eq_valid, Checked.map_eq_valid] at read
    obtain ⟨_, args, ⟨_, name, ⟨space, first, rfl⟩, second, rfl⟩, third, rfl⟩ := read
    obtain ⟨k, rfl⟩ := legible.room_of_required first
    have saved := (Saves.list ih).withDefault saved_nil (Nat.zero_le k) legible third
    constructor
    · rw [toJson, toJsonAll_eq]
      simp [saved.legible]
    · rw [toJson, toJsonAll_eq, ofJson, model_eq_valid, required_valid rfl fun _ => rfl,
        required_valid rfl fun _ => rfl, withDefault_valid rfl fun _ => saved.read]
      exact ⟨⟨_, rfl⟩, rfl⟩

/-- A type without arguments needs no more room than its object. -/
theorem saved_plain {n : Nat} (space name : String) :
    Saved (n + 1) ofJson toJson (plain space name) := by
  have shape : (plain space name).toJson =
      .obj [("namespace", .str space), ("name", .str name), ("type_args", .arr [])] := rfl
  refine ⟨?_, ?_⟩
  · rw [shape]
    simp [(within_nothing).1]
  · rw [shape, ofJson, model_eq_valid, required_valid rfl fun _ => rfl,
      required_valid rfl fun _ => rfl, withDefault_valid rfl fun _ => rfl]
    exact ⟨⟨_, rfl⟩, rfl⟩

theorem toJson_ne_null (t : TypeId) : t.toJson ≠ .null := by
  obtain ⟨space, name, args⟩ := t
  intro same
  cases same

/-- What is written of a type is an object with members. -/
theorem one_le_of_legible {n : Nat} {t : TypeId} (h : Legible n t.toJson) : 1 ≤ n := by
  obtain ⟨space, name, args⟩ := t
  rcases Within.members h with nothing | ⟨k, rfl, _⟩
  · cases nothing
  · exact Nat.le_add_left 1 k

end TypeId

namespace Property

theorem saves_kind (kind : Kind) :
    Saves 0 (·.asEnum Kind.named) (fun k => .str (nameIn Kind.named k)) kind :=
  Saved.saves fun _ => saved_enum (by cases kind <;> rfl)

theorem saves_primitive (p : Primitive) :
    Saves 0 (·.asEnum Primitive.named) (fun k => .str (nameIn Primitive.named k)) p :=
  Saved.saves fun _ => saved_enum (by cases p <;> rfl)

/-- A property that was made from its parts is made from them again. -/
theorem ofParts_parts {name : String} {kind : Kind} {primitive : Option Primitive}
    {type : Option TypeId} {p : Property} (made : ofParts name kind primitive type = .ok p) :
    p.name = name ∧ p.parts = (kind, primitive, type) := by
  unfold ofParts at made
  split at made <;> cases made <;> exact ⟨rfl, rfl⟩

theorem saves (p : Property) : Saves 0 ofJson toJson p := by
  intro n j _ legible read
  change Checked.settle _ _ = _ at read
  obtain ⟨⟨name, kind, primitive, type⟩, fields, made⟩ := Checked.settle_eq_valid.mp read
  obtain ⟨rfl, parts⟩ := ofParts_parts made
  rw [model_eq_valid] at fields
  obtain ⟨_, fields⟩ := fields
  simp only [Checked.seq_eq_valid, Checked.map_eq_valid] at fields
  obtain ⟨_, _, ⟨_, first, rfl⟩, ⟨_, _, ⟨_, second, rfl⟩, ⟨_, _, ⟨_, third, rfl⟩, fourth, rfl⟩, rfl⟩,
    same⟩ := fields
  cases same
  obtain ⟨k, rfl⟩ := legible.room_of_required first
  have free := Nat.zero_le k
  have given (p : Primitive) : Json.str (nameIn Primitive.named p) ≠ .null := nofun
  have kinds := (saves_kind kind).required free legible second
  have primitives := (Saves.option given fun p _ => saves_primitive p).withDefault saved_none free
    legible third
  have types := (Saves.option TypeId.toJson_ne_null fun t _ => t.saves).withDefault saved_none free
    legible fourth
  constructor
  · simp [toJson, parts, primitives.legible, types.legible]
  · refine Checked.settle_eq_valid.mpr ⟨(p.name, kind, primitive, type),
      model_eq_valid.mpr ⟨⟨_, rfl⟩, ?_⟩, made⟩
    rw [toJson, parts]
    dsimp only
    rw [required_valid rfl fun _ => rfl, required_valid rfl fun _ => kinds.read,
      withDefault_valid rfl fun _ => primitives.read, withDefault_valid rfl fun _ => types.read]
    rfl

end Property

theorem EnumSpec.saves (e : EnumSpec) : Saves 0 ofJson toJson e := by
  intro n j _ legible read
  rw [ofJson, model_eq_valid] at read
  obtain ⟨_, read⟩ := read
  simp only [Checked.seq_eq_valid, Checked.map_eq_valid] at read
  obtain ⟨_, members, ⟨type, first, rfl⟩, second, rfl⟩ := read
  obtain ⟨k, rfl⟩ := legible.room_of_required first
  have typed := type.saves.required (Nat.zero_le k) legible first
  have listed := (Saves.map fun e _ => Saved.saves fun _ => saved_string e.2).withDefault saved_empty
    (Nat.zero_le k) legible second
  constructor
  · simp [toJson, typed.legible, listed.legible]
  · rw [toJson, ofJson, model_eq_valid, required_valid rfl fun _ => typed.read,
      withDefault_valid rfl fun _ => listed.read]
    exact ⟨⟨_, rfl⟩, rfl⟩

theorem Category.saves (c : Category) :
    Saves 0 (·.asEnum Category.named) (fun c => .str (nameIn Category.named c)) c :=
  Saved.saves fun _ => saved_enum (by cases c <;> rfl)

theorem ElementSpec.saves (e : ElementSpec) : Saves 0 ofJson toJson e := by
  intro n j _ legible read
  rw [ofJson, model_eq_valid] at read
  obtain ⟨_, read⟩ := read
  simp only [Checked.seq_eq_valid, Checked.map_eq_valid] at read
  obtain ⟨_, factory, ⟨_, properties, ⟨_, markupPrefix, ⟨_, category, ⟨type, first, rfl⟩, second,
    rfl⟩, third, rfl⟩, fourth, rfl⟩, fifth, rfl⟩ := read
  obtain ⟨k, rfl⟩ := legible.room_of_required first
  have typed := type.saves.required (Nat.zero_le k) legible first
  have kinds := category.saves.withDefault (saved_enum rfl) (Nat.zero_le k) legible second
  have prefixed := saves_strings.withDefault saved_none (Nat.zero_le k) legible third
  have listed := (Saves.list fun p _ => Property.saves p).withDefault saved_nil (Nat.zero_le k)
    legible fourth
  constructor
  · simp [toJson, typed.legible, prefixed.legible, listed.legible]
  · rw [toJson, ofJson, model_eq_valid, required_valid rfl fun _ => typed.read,
      withDefault_valid rfl fun _ => kinds.read,
      withDefault_valid rfl fun _ => prefixed.read, withDefault_valid rfl fun _ => listed.read,
      withDefault_valid rfl fun _ => rfl]
    exact ⟨⟨_, rfl⟩, rfl⟩

theorem AddOperation.saves (a : AddOperation) : Saves 0 ofJson toJson a := by
  intro n j _ legible read
  rw [ofJson, model_eq_valid] at read
  obtain ⟨_, read⟩ := read
  simp only [Checked.seq_eq_valid, Checked.map_eq_valid] at read
  obtain ⟨_, relationshipId, ⟨_, contentType, ⟨_, operation, ⟨child, first, rfl⟩, second, rfl⟩,
    third, rfl⟩, fourth, rfl⟩ := read
  obtain ⟨k, rfl⟩ := legible.room_of_required first
  have typed := child.saves.required (Nat.zero_le k) legible first
  constructor
  · simp [toJson, typed.legible]
  · rw [toJson, ofJson, model_eq_valid, required_valid rfl fun _ => typed.read,
      required_valid rfl fun _ => rfl, withDefault_valid rfl fun _ => rfl,
      withDefault_valid rfl fun _ => rfl]
    exact ⟨⟨_, rfl⟩, rfl⟩

theorem PartSpec.saves (p : PartSpec) : Saves 0 ofJson toJson p := by
  intro n j _ legible read
  rw [ofJson, model_eq_valid] at read
  obtain ⟨_, read⟩ := read
  simp only [Checked.seq_eq_valid, Checked.map_eq_valid] at read
  obtain ⟨_, additions, ⟨_, properties, ⟨type, first, rfl⟩, second, rfl⟩, third, rfl⟩ := read
  obtain ⟨k, rfl⟩ := legible.room_of_required first
  have typed := type.saves.required (Nat.zero_le k) legible first
  have mapped := (Saves.map fun e _ => e.2.saves).withDefault saved_empty (Nat.zero_le k) legible
    second
  have listed := (Saves.list fun a _ => AddOperation.saves a).withDefault saved_nil (Nat.zero_le k)
    legible third
  constructor
  · simp [toJson, typed.legible, mapped.legible, listed.legible]
  · rw [toJson, ofJson, model_eq_valid, required_valid rfl fun _ => typed.read,
      withDefault_valid rfl fun _ => mapped.read, withDefault_valid rfl fun _ => listed.read]
    exact ⟨⟨_, rfl⟩, rfl⟩

theorem PackageSpec.saves (p : PackageSpec) : Saves 0 ofJson toJson p := by
  intro n j _ legible read
  rw [ofJson, model_eq_valid] at read
  obtain ⟨_, read⟩ := read
  simp only [Checked.seq_eq_valid, Checked.map_eq_valid] at read
  obtain ⟨_, additions, ⟨_, create, ⟨type, first, rfl⟩, second, rfl⟩, third, rfl⟩ := read
  obtain ⟨k, rfl⟩ := legible.room_of_required first
  have typed := type.saves.required (Nat.zero_le k) legible first
  have listed := (Saves.list fun a _ => AddOperation.saves a).withDefault saved_nil (Nat.zero_le k)
    legible third
  constructor
  · simp [toJson, typed.legible, listed.legible]
  · rw [toJson, ofJson, model_eq_valid, required_valid rfl fun _ => typed.read,
      withDefault_valid rfl fun _ => rfl, withDefault_valid rfl fun _ => listed.read]
    exact ⟨⟨_, rfl⟩, rfl⟩

theorem BagSpec.saves (b : BagSpec) : Saves 2 ofJson toJson b := by
  intro n j enough legible read
  rw [ofJson, model_eq_valid] at read
  obtain ⟨_, read⟩ := read
  simp only [Checked.seq_eq_valid, Checked.map_eq_valid] at read
  obtain ⟨_, property, ⟨type, first, rfl⟩, second, rfl⟩ := read
  obtain ⟨k, rfl⟩ := Nat.exists_eq_add_of_le' enough
  have typed := type.saves.withDefault (TypeId.saved_plain _ _) (Nat.zero_le _) legible first
  constructor
  · simp [toJson, typed.legible]
  · rw [toJson, ofJson, model_eq_valid, withDefault_valid rfl fun _ => typed.read,
      withDefault_valid rfl fun _ => rfl]
    exact ⟨⟨_, rfl⟩, rfl⟩

theorem BagSpec.saved_standard {n : Nat} : Saved (n + 2) ofJson toJson standard :=
  standard.saves (n + 2) (.obj []) (Nat.le_add_left 2 n) within_nothing.2 rfl

theorem Schema.saves (s : Schema) : Saves 3 ofJson toJson s := by
  intro n j enough legible read
  rw [ofJson, model_eq_valid] at read
  obtain ⟨_, read⟩ := read
  simp only [Checked.seq_eq_valid, Checked.map_eq_valid] at read
  obtain ⟨_, bag, ⟨_, rawKind, ⟨_, types, ⟨_, packages, ⟨_, parts, ⟨_, enums, ⟨elements, first,
    rfl⟩, second, rfl⟩, third, rfl⟩, fourth, rfl⟩, fifth, rfl⟩, sixth, rfl⟩, seventh, rfl⟩ := read
  obtain ⟨k, rfl⟩ := Nat.exists_eq_add_of_le' enough
  have free := Nat.zero_le (k + 2)
  have elements' := (Saves.list fun e _ => ElementSpec.saves e).withDefault saved_nil free legible
    first
  have enums' := (Saves.list fun e _ => EnumSpec.saves e).withDefault saved_nil free legible second
  have parts' := (Saves.list fun p _ => PartSpec.saves p).withDefault saved_nil free legible third
  have packages' := (Saves.list fun p _ => PackageSpec.saves p).withDefault saved_nil free legible
    fourth
  have types' := (Saves.list fun t _ => TypeId.saves t).withDefault saved_nil free legible fifth
  have kind := rawKind.saves.withDefault (TypeId.saved_plain _ _) free legible sixth
  have holder := bag.saves.withDefault BagSpec.saved_standard (Nat.le_add_left 2 k) legible seventh
  constructor
  · simp [toJson, elements'.legible, enums'.legible, parts'.legible, packages'.legible,
      types'.legible, kind.legible, holder.legible]
  · rw [toJson, ofJson, model_eq_valid, withDefault_valid rfl fun _ => elements'.read,
      withDefault_valid rfl fun _ => enums'.read, withDefault_valid rfl fun _ => parts'.read,
      withDefault_valid rfl fun _ => packages'.read, withDefault_valid rfl fun _ => types'.read,
      withDefault_valid rfl fun _ => kind.read, withDefault_valid rfl fun _ => holder.read]
    exact ⟨⟨_, rfl⟩, rfl⟩

theorem Schema.saved_empty {n : Nat} : Saved (n + 3) ofJson toJson empty :=
  empty.saves (n + 3) (.obj []) (Nat.le_add_left 3 n) within_nothing.2 rfl

end DocScript
