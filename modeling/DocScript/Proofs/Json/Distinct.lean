import DocScript.Document.Codec
import DocScript.Proofs.Json.Bounds
import DocScript.Proofs.OrderedMap

/-!
# Raw values that are kept

A raw value is kept with one member of each name and written with null for numbers that are not
finite. A value that is kept in this way does not change when it is kept again, and finite numbers
are written as they are.
-/

namespace DocScript.Json

/-- A property of values holds if each value has it whenever those inside it do. -/
theorem induction {motive : Json → Prop} (scalar : ∀ j, isScalar j = true → motive j)
    (list : ∀ items, (∀ j ∈ items, motive j) → motive (arr items))
    (object : ∀ members, (∀ m ∈ members, motive m.2) → motive (obj members)) (j : Json) : motive j :=
  match j with
  | arr items => list items fun j _ => induction scalar list object j
  | obj members => object members fun (_, j) _ => induction scalar list object j
  | null => scalar _ rfl
  | bool _ => scalar _ rfl
  | int _ => scalar _ rfl
  | float _ => scalar _ rfl
  | str _ => scalar _ rfl
termination_by sizeOf j
decreasing_by
  · exact sizeOf_item_lt ‹_›
  · have smaller := List.sizeOf_lt_of_mem ‹_›
    simp only [Prod.mk.sizeOf_spec, obj.sizeOf_spec] at smaller ⊢
    omega

section Distinct

variable {p : Json → Prop} {limit : Nat} {j : Json}

theorem distinctItems_eq (items : List Json) : distinctItems items = items.map distinct := by
  induction items with
  | nil => rfl
  | cons j rest ih => rw [distinctItems, ih, List.map_cons]

/-- The members are put into a map one after the other. -/
theorem distinctMembers_eq (done : OrderedMap String Json) (members : List (String × Json)) :
    distinctMembers done.entries members =
      ((members.map fun m => (m.1, m.2.distinct)).foldl (fun m e => m.insert e.1 e.2)
        done).entries := by
  induction members generalizing done with
  | nil => rfl
  | cons m rest ih =>
    obtain ⟨k, j⟩ := m
    rw [distinctMembers]
    exact ih (done.insert k j.distinct)

theorem distinct_obj (members : List (String × Json)) : (obj members).distinct =
    obj (OrderedMap.ofList (members.map fun m => (m.1, m.2.distinct))).entries := by
  rw [distinct]
  exact congrArg obj (distinctMembers_eq .empty members)

theorem distinct_scalar (scalar : isScalar j = true) : j.distinct = j := by
  cases j with
  | arr _ | obj _ => cases scalar
  | _ => rfl

theorem distinct_distinct (j : Json) : j.distinct.distinct = j.distinct := by
  induction j using induction with
  | scalar j scalar => rw [distinct_scalar scalar, distinct_scalar scalar]
  | list items ih =>
    simp only [distinct, distinctItems_eq, List.map_map, arr.injEq, List.map_inj_left]
    exact ih
  | object members ih =>
    have kept : ∀ m ∈ (OrderedMap.ofList (members.map fun m => (m.1, m.2.distinct))).entries,
        (m.1, m.2.distinct) = m := by
      intro m member
      obtain ⟨m', inside, rfl⟩ := List.mem_map.mp (OrderedMap.mem_of_mem_ofList member)
      rw [ih m' inside]
    rw [distinct_obj, distinct_obj, List.map_congr_left kept, List.map_id', OrderedMap.ofList_entries]

theorem within_distinct (h : Within p limit j) : Within p limit j.distinct := by
  induction j using induction generalizing limit with
  | scalar j scalar => rwa [distinct_scalar scalar]
  | list items ih =>
    rw [distinct, distinctItems_eq]
    rcases h.items with rfl | ⟨n, rfl, each⟩
    · exact h
    · rw [within_arr, List.forall_mem_map]
      exact fun j member => ih j member (each j member)
  | object members ih =>
    rw [distinct_obj]
    rcases h.members with rfl | ⟨n, rfl, each⟩
    · exact h
    · rw [within_obj]
      intro m member
      obtain ⟨m', inside, rfl⟩ := List.mem_map.mp (OrderedMap.mem_of_mem_ofList member)
      exact ih m' inside (each m' inside)

theorem storedItems_eq (items : List Json) : storedItems items = items.map stored := by
  induction items with
  | nil => rfl
  | cons j rest ih => rw [storedItems, ih, List.map_cons]

theorem storedMembers_eq (members : List (String × Json)) :
    storedMembers members = members.map fun m => (m.1, m.2.stored) := by
  induction members with
  | nil => rfl
  | cons m rest ih => rw [storedMembers, ih, List.map_cons]

/-- Finite numbers are written as they are. -/
theorem stored_of_printed (printed : Every isPrinted j) : j.stored = j := by
  induction j using induction with
  | scalar j scalar =>
    cases j with
    | arr _ | obj _ => cases scalar
    | float x => cases x <;> first | rfl | cases printed
    | _ => rfl
  | list items ih =>
    rw [Every, everyItem_iff] at printed
    have same : items.map stored = items.map id :=
      List.map_congr_left fun j member => ih j member (printed j member)
    rw [stored, storedItems_eq, same, List.map_id]
  | object members ih =>
    rw [Every, everyMember_iff] at printed
    have same : (members.map fun m => (m.1, m.2.stored)) = members.map id :=
      List.map_congr_left fun m member => by rw [ih m member (printed m member), id]
    rw [stored, storedMembers_eq, same, List.map_id]

end Distinct

end DocScript.Json
