import DocScript.Json.Basic

/-!
# Properties of all values inside a value
-/

namespace DocScript.Json

mutual

/-- All values without parts inside a value, or the value itself if it has none, have a property. -/
def Every (p : Json → Prop) : Json → Prop
  | arr items => EveryItem p items
  | obj members => EveryMember p members
  | j => p j

def EveryItem (p : Json → Prop) : List Json → Prop
  | [] => True
  | x :: rest => Every p x ∧ EveryItem p rest

def EveryMember (p : Json → Prop) : List (String × Json) → Prop
  | [] => True
  | (_, x) :: rest => Every p x ∧ EveryMember p rest

end

variable {p q r : Json → Prop}

theorem everyItem_iff {items : List Json} : EveryItem p items ↔ ∀ x ∈ items, Every p x := by
  induction items with
  | nil => simp [EveryItem]
  | cons x rest ih => simp [EveryItem, ih]

theorem everyMember_iff {members : List (String × Json)} :
    EveryMember p members ↔ ∀ m ∈ members, Every p m.2 := by
  induction members with
  | nil => simp [EveryMember]
  | cons m rest ih => simp [EveryMember, ih]

mutual

/-- Two properties of all values give what follows from both. -/
theorem every_both (both : ∀ j, p j → q j → r j) : ∀ j, Every p j → Every q j → Every r j
  | arr items, h, h' => everyItem_both both items h h'
  | obj members, h, h' => everyMember_both both members h h'
  | null, h, h' | bool _, h, h' | int _, h, h' | float _, h, h' | str _, h, h' => both _ h h'

theorem everyItem_both (both : ∀ j, p j → q j → r j) :
    ∀ items, EveryItem p items → EveryItem q items → EveryItem r items
  | [], _, _ => trivial
  | x :: rest, h, h' => ⟨every_both both x h.1 h'.1, everyItem_both both rest h.2 h'.2⟩

theorem everyMember_both (both : ∀ j, p j → q j → r j) :
    ∀ members, EveryMember p members → EveryMember q members → EveryMember r members
  | [], _, _ => trivial
  | (_, x) :: rest, h, h' => ⟨every_both both x h.1 h'.1, everyMember_both both rest h.2 h'.2⟩

end

end DocScript.Json
