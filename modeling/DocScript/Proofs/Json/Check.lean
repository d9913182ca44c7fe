import Mathlib.Data.List.Forall2
import DocScript.Json.Check
import DocScript.Proofs.OrderedMap
import DocScript.Schema.Codec

/-!
# Checks that succeed

For each way of putting checks together, what it takes for the whole to be valid: the parts are
valid, and the value is made of theirs. Lists, maps, options and named values that were written are
checked item by item.
-/

namespace DocScript

variable {α β : Type}

namespace Checked

theorem map_eq_valid {f : α → β} {c : Checked α} {b : β} :
    f <$> c = .valid b ↔ ∃ a, c = .valid a ∧ f a = b := by
  cases c with
  | valid a =>
    exact ⟨fun h => ⟨a, rfl, valid.inj h⟩, fun ⟨_, same, h⟩ => valid.inj same ▸ congrArg _ h⟩
  | invalid issues => exact ⟨nofun, fun ⟨_, h, _⟩ => by cases h⟩

theorem seq_eq_valid {f : Checked (α → β)} {c : Checked α} {b : β} :
    f <*> c = .valid b ↔ ∃ g a, f = .valid g ∧ c = .valid a ∧ g a = b := by
  cases f with
  | valid g =>
    cases c with
    | valid a =>
      exact ⟨fun h => ⟨g, a, rfl, rfl, valid.inj h⟩, fun ⟨_, _, first, second, h⟩ =>
        valid.inj first ▸ valid.inj second ▸ congrArg _ h⟩
    | invalid issues => exact ⟨nofun, fun ⟨_, _, _, h, _⟩ => by cases h⟩
  | invalid issues => cases c <;> exact ⟨nofun, fun ⟨_, _, h, _⟩ => by cases h⟩

theorem under_eq_valid {place : Place} {c : Checked α} {a : α} :
    c.under place = .valid a ↔ c = .valid a := by
  cases c <;> simp [under]

theorem settle_eq_valid {c : Checked α} {f : α → Except String β} {b : β} :
    c.settle f = .valid b ↔ ∃ a, c = .valid a ∧ f a = .ok b := by
  unfold settle
  cases c with
  | invalid issues => exact ⟨nofun, fun ⟨_, h, _⟩ => by cases h⟩
  | valid a =>
    dsimp only
    cases made : f a with
    | ok b' =>
      constructor
      · intro h
        exact ⟨a, rfl, valid.inj h ▸ made⟩
      · rintro ⟨_, same, h⟩
        cases same
        rw [made] at h
        cases h
        rfl
    | error message =>
      constructor
      · exact nofun
      · rintro ⟨_, same, h⟩
        cases same
        rw [made] at h
        cases h

end Checked

namespace Json

section Members

variable {j v : Json} {name : String} {a default : α}
  {check : (v : Json) → sizeOf v < sizeOf j → Checked α}

theorem required_eq_valid : j.required name check = .valid a ↔
    ∃ v h, j.member? name = some v ∧ check v h = .valid a := by
  unfold required
  split
  · next v found =>
    rw [Checked.under_eq_valid]
    constructor
    · exact fun ok => ⟨v, sizeOf_member_lt found, found, ok⟩
    · rintro ⟨w, _, same, ok⟩
      rw [found] at same
      obtain rfl := Option.some.inj same
      exact ok
  · next none =>
    rw [none]
    exact ⟨nofun, fun ⟨_, _, h, _⟩ => by cases h⟩

theorem withDefault_eq_valid : j.withDefault name default check = .valid a ↔
    (j.member? name = none ∧ a = default) ∨
      ∃ v h, j.member? name = some v ∧ check v h = .valid a := by
  unfold withDefault
  split
  · next v found =>
    rw [Checked.under_eq_valid]
    constructor
    · exact fun ok => Or.inr ⟨v, sizeOf_member_lt found, found, ok⟩
    · rintro (⟨none, _⟩ | ⟨w, _, same, ok⟩)
      · rw [found] at none
        cases none
      · rw [found] at same
        obtain rfl := Option.some.inj same
        exact ok
  · next none =>
    rw [none]
    constructor
    · exact fun h => Or.inl ⟨rfl, (Checked.valid.inj h).symm⟩
    · rintro (⟨_, rfl⟩ | ⟨_, _, h, _⟩)
      · rfl
      · cases h

theorem required_valid (found : j.member? name = some v) (ok : ∀ h, check v h = .valid a) :
    j.required name check = .valid a :=
  required_eq_valid.mpr ⟨v, sizeOf_member_lt found, found, ok _⟩

theorem withDefault_valid (found : j.member? name = some v) (ok : ∀ h, check v h = .valid a) :
    j.withDefault name default check = .valid a :=
  withDefault_eq_valid.mpr (Or.inr ⟨v, sizeOf_member_lt found, found, ok _⟩)

/-- Of two names, the first counts where it is given. -/
theorem aliased_valid {other : String} (found : j.member? name = some v)
    (ok : ∀ h, check v h = .valid a) : j.aliased name other default check = .valid a := by
  rw [aliased, if_pos (by rw [found]; rfl)]
  exact withDefault_valid found ok

theorem aliased_eq_valid {other : String} (h : j.aliased name other default check = .valid a) :
    a = default ∨ ∃ used v h, j.member? used = some v ∧ check v h = .valid a := by
  unfold aliased at h
  split at h <;> rcases withDefault_eq_valid.mp h with ⟨_, same⟩ | ⟨v, small, found, ok⟩
  · exact Or.inl same
  · exact Or.inr ⟨_, v, small, found, ok⟩
  · exact Or.inl same
  · exact Or.inr ⟨_, v, small, found, ok⟩

theorem model_eq_valid {c : Checked α} :
    j.model c = .valid a ↔ (∃ members, j = obj members) ∧ c = .valid a := by
  cases j <;> simp [model, Checked.fail]

theorem tagged_valid {tag : String} {cases : String → Option (Checked α)}
    (kind : j.member? "kind" = some (str tag)) (ok : cases tag = some (.valid a)) :
    j.tagged cases = .valid a := by
  cases j with
  | obj members =>
    rw [tagged, kind]
    dsimp only
    rw [ok]
    rfl
  | _ => cases kind

end Members

section Lists

variable {fault : Fault}

theorem checkItems_eq_valid {items : List Json} {check : (v : Json) → v ∈ items → Checked α}
    {index : Nat} {rest : List Json} {inside : ∀ v ∈ rest, v ∈ items} {as : List α} :
    checkItems check index rest inside = .valid as ↔
      List.Forall₂ (fun v a => ∃ h, check v h = .valid a) rest as := by
  induction rest generalizing index as with
  | nil =>
    rw [List.forall₂_nil_left_iff]
    exact ⟨fun h => (Checked.valid.inj h).symm, fun h => h ▸ rfl⟩
  | cons v rest ih =>
    rw [checkItems, Checked.seq_eq_valid]
    constructor
    · rintro ⟨_, more, first, others, rfl⟩
      obtain ⟨a, ok, rfl⟩ := Checked.map_eq_valid.mp first
      exact .cons ⟨_, Checked.under_eq_valid.mp ok⟩ (ih.mp others)
    · rintro (_ | ⟨⟨h, ok⟩, others⟩)
      exact ⟨_, _, Checked.map_eq_valid.mpr ⟨_, Checked.under_eq_valid.mpr ok, rfl⟩, ih.mpr others,
        rfl⟩

/-- What was read from a list: its items, each with what was read from it. -/
theorem sequence_eq_valid {j : Json} {as : List α}
    {check : (v : Json) → sizeOf v < sizeOf j → Checked α} (h : sequence fault j check = .valid as) :
    ∃ items, j = arr items ∧ List.Forall₂ (fun v a => ∃ h, check v h = .valid a) items as := by
  cases j with
  | arr items =>
    exact ⟨items, rfl, (checkItems_eq_valid.mp h).imp fun _ _ ⟨_, ok⟩ => ⟨_, ok⟩⟩
  | _ => cases h

/-- A list that was written item by item is read item by item. -/
theorem sequence_valid {write : α → Json} {read : α → β} {as : List α}
    {check : (v : Json) → sizeOf v < sizeOf (arr (as.map write)) → Checked β}
    (ok : ∀ a ∈ as, ∀ h, check (write a) h = .valid (read a)) :
    sequence fault (arr (as.map write)) check = .valid (as.map read) := by
  rw [sequence, checkItems_eq_valid, List.forall₂_map_left_iff, List.forall₂_map_right_iff,
    List.forall₂_same]
  exact fun a member => ⟨List.mem_map_of_mem member, ok a member _⟩

theorem asList_valid {write : α → Json} {read : α → β} {as : List α} {check : Json → Checked β}
    (ok : ∀ a ∈ as, check (write a) = .valid (read a)) :
    asList check (arr (as.map write)) = .valid (as.map read) :=
  sequence_valid fun a member _ => ok a member

/-- A list is read back if all its items are. -/
theorem sequence_self {write : α → Json} {as : List α}
    {check : (v : Json) → sizeOf v < sizeOf (arr (as.map write)) → Checked α}
    (ok : ∀ a ∈ as, ∀ h, check (write a) h = .valid a) :
    sequence fault (arr (as.map write)) check = .valid as := by
  have read : sequence fault (arr (as.map write)) check = .valid (as.map id) := sequence_valid ok
  rwa [List.map_id] at read

theorem asList_self {write : α → Json} {as : List α} {check : Json → Checked α}
    (ok : ∀ a ∈ as, check (write a) = .valid a) :
    asList check (arr (as.map write)) = .valid as :=
  sequence_self fun a member _ => ok a member

end Lists

section Maps

variable {check : Json → Checked α} {write : α → Json}

/-- What was written of a value, if it is not null. -/
theorem asOption_valid {check : Json → Checked β} {read : α → β} {o : Option α}
    (given : ∀ a, write a ≠ null) (ok : ∀ a, o = some a → check (write a) = .valid (read a)) :
    asOption check (ofOption write o) = .valid (o.map read) := by
  cases o with
  | none => rfl
  | some a =>
    have read := ok a rfl
    unfold asOption ofOption
    split
    · next nothing => exact (given a nothing).elim
    · rw [read]
      rfl

theorem asOption_self {o : Option α} (given : ∀ a, write a ≠ null)
    (ok : ∀ a, o = some a → check (write a) = .valid a) :
    asOption check (ofOption write o) = .valid o := by
  have read : asOption check (ofOption write o) = .valid (o.map id) := asOption_valid given ok
  rwa [Option.map_id, id] at read

theorem asOption_string (o : Option String) : asOption asString (ofOption str o) = .valid o :=
  asOption_self (fun _ => nofun) fun _ _ => rfl

theorem asOption_eq_valid {j : Json} {o : Option α} (h : asOption check j = .valid o) :
    (j = null ∧ o = none) ∨ ∃ a, check j = .valid a ∧ o = some a := by
  unfold asOption at h
  split at h
  · exact Or.inl ⟨rfl, (Checked.valid.inj h).symm⟩
  · obtain ⟨a, ok, rfl⟩ := Checked.map_eq_valid.mp h
    exact Or.inr ⟨a, ok, rfl⟩

theorem checkMembers_eq_valid {members : List (String × Json)} {es : List (String × α)} :
    checkMembers check members = .valid es ↔
      List.Forall₂ (fun m e => m.1 = e.1 ∧ check m.2 = .valid e.2) members es := by
  induction members generalizing es with
  | nil =>
    rw [List.forall₂_nil_left_iff]
    exact ⟨fun h => (Checked.valid.inj h).symm, fun h => h ▸ rfl⟩
  | cons m rest ih =>
    obtain ⟨k, v⟩ := m
    rw [checkMembers, Checked.seq_eq_valid]
    constructor
    · rintro ⟨_, more, first, others, rfl⟩
      obtain ⟨_, entry, rfl⟩ := Checked.map_eq_valid.mp first
      obtain ⟨a, ok, rfl⟩ := Checked.map_eq_valid.mp entry
      exact .cons ⟨rfl, Checked.under_eq_valid.mp ok⟩ (ih.mp others)
    · rintro (_ | ⟨⟨same, ok⟩, others⟩)
      next e es =>
      obtain ⟨k', a⟩ := e
      obtain rfl : k = k' := same
      exact ⟨_, _, Checked.map_eq_valid.mpr
        ⟨_, Checked.map_eq_valid.mpr ⟨_, Checked.under_eq_valid.mpr ok, rfl⟩, rfl⟩, ih.mpr others, rfl⟩

theorem asMap_valid {m : OrderedMap String α}
    (ok : ∀ e ∈ m.entries, check (write e.2) = .valid e.2) :
    asMap check (ofMap write m) = .valid m := by
  rw [ofMap, asMap, Checked.map_eq_valid]
  refine ⟨m.entries, checkMembers_eq_valid.mpr ?_, m.ofList_entries⟩
  rw [List.forall₂_map_left_iff, List.forall₂_same]
  exact fun e member => ⟨rfl, ok e member⟩

theorem asMap_eq_valid {j : Json} {m : OrderedMap String α} (h : asMap check j = .valid m) :
    ∃ members es, j = obj members ∧ m = .ofList es ∧
      List.Forall₂ (fun m e => m.1 = e.1 ∧ check m.2 = .valid e.2) members es := by
  cases j with
  | obj members =>
    obtain ⟨es, ok, rfl⟩ := Checked.map_eq_valid.mp h
    exact ⟨members, es, rfl, rfl, checkMembers_eq_valid.mp ok⟩
  | _ => cases h

end Maps

/-- The name of a value leads back to it. -/
theorem asEnum_valid [DecidableEq α] {named : List (String × α)} {a : α}
    (found : named.lookup (nameIn named a) = some a) :
    asEnum named (.str (nameIn named a)) = .valid a := by
  rw [asEnum, found]

end Json

end DocScript
