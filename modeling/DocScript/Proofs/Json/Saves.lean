import DocScript.Proofs.Base64
import DocScript.Proofs.Json.Check
import DocScript.Proofs.Json.Distinct

/-!
# Values that survive being saved

What was read from a legible value is written as a legible value from which the same is read. This
is shown for values without parts, and for lists, maps, options and members from what holds for
their parts. A member that is left out is written with its default, which needs room of its own.
-/

namespace DocScript

/-- A relation of two lists passes what holds of the one on to the other. -/
theorem forall_of_forall₂ {α β : Type} {R : α → β → Prop} {P : α → Prop} {Q : β → Prop}
    {as : List α} {bs : List β} (related : List.Forall₂ R as bs) (all : ∀ a ∈ as, P a)
    (pass : ∀ a b, b ∈ bs → P a → R a b → Q b) : ∀ b ∈ bs, Q b := by
  induction related with
  | nil => exact nofun
  | cons first _ ih =>
    rw [List.forall_mem_cons] at all ⊢
    exact ⟨pass _ _ List.mem_cons_self all.1 first,
      ih all.2 fun a b member => pass a b (List.mem_cons_of_mem _ member)⟩

namespace Json

/-- What is written of a value is legible, and the value is read back from it. -/
structure Saved {α : Type} (n : Nat) (check : Json → Checked α) (write : α → Json) (a : α) :
    Prop where
  legible : Legible n (write a)
  read : check (write a) = .valid a

/-- Wherever the value is read and there is room, it is saved. -/
def Saves {α : Type} (room : Nat) (check : Json → Checked α) (write : α → Json) (a : α) : Prop :=
  ∀ n j, room ≤ n → Legible n j → check j = .valid a → Saved n check write a

variable {α : Type} {room n : Nat} {check : Json → Checked α} {write : α → Json} {a default : α}
  {j : Json} {name : String}

/-! ### Members -/

/-- An object with a member has room for it. -/
theorem Within.member {p : Json → Prop} {v : Json} (h : Within p n j)
    (found : j.member? name = some v) : ∃ k, n = k + 1 ∧ Within p k v := by
  cases j with
  | obj members =>
    have member := List.mem_reverse.mp (lookupEntry_mem found)
    rcases h.members with rfl | ⟨k, rfl, each⟩
    · cases member
    · exact ⟨k, rfl, each _ member⟩
  | _ => cases found

theorem Legible.room_of_required {check : (v : Json) → sizeOf v < sizeOf j → Checked α}
    (h : Legible n j) (given : j.required name check = .valid a) : ∃ k, n = k + 1 := by
  obtain ⟨v, _, found, _⟩ := required_eq_valid.mp given
  obtain ⟨k, one, _⟩ := Within.member h found
  exact ⟨k, one⟩

/-- What is read from a member is saved in the room that the object leaves. -/
theorem Saves.member {v : Json} (saves : Saves room check write a) (enough : room ≤ n)
    (legible : Legible (n + 1) j) (found : j.member? name = some v) (ok : check v = .valid a) :
    Saved n check write a := by
  obtain ⟨k, one, inside⟩ := Within.member legible found
  cases one
  exact saves n v enough inside ok

theorem Saves.required (saves : Saves room check write a) (enough : room ≤ n)
    (legible : Legible (n + 1) j) (given : j.required name (fun v _ => check v) = .valid a) :
    Saved n check write a := by
  obtain ⟨v, _, found, ok⟩ := required_eq_valid.mp given
  exact saves.member enough legible found ok

theorem Saves.withDefault (saves : Saves room check write a) (default : Saved n check write d)
    (enough : room ≤ n) (legible : Legible (n + 1) j)
    (given : j.withDefault name d (fun v _ => check v) = .valid a) : Saved n check write a := by
  rcases withDefault_eq_valid.mp given with ⟨_, rfl⟩ | ⟨v, _, found, ok⟩
  · exact default
  · exact saves.member enough legible found ok

theorem Saves.aliased {other : String} (saves : Saves room check write a)
    (default : Saved n check write d) (enough : room ≤ n) (legible : Legible (n + 1) j)
    (given : j.aliased name other d (fun v _ => check v) = .valid a) : Saved n check write a := by
  rcases aliased_eq_valid given with rfl | ⟨_, v, _, found, ok⟩
  · exact default
  · exact saves.member enough legible found ok

/-! ### Values without parts -/

theorem saved_string (s : String) : Saved n asString str s := ⟨legible_str s, rfl⟩

theorem saved_bytes (bytes : List UInt8) :
    Saved n asBytes (fun b => str (Base64.urlSafe.encode b)) bytes := by
  refine ⟨legible_str _, ?_⟩
  unfold asBytes
  dsimp only
  rw [Base64.decode?_encode]

theorem saved_enum [DecidableEq α] {named : List (String × α)}
    (found : named.lookup (nameIn named a) = some a) :
    Saved n (asEnum named) (fun a => str (nameIn named a)) a := ⟨legible_str _, asEnum_valid found⟩

/-- What is always saved is saved where it is read. -/
theorem Saved.saves (h : ∀ n, Saved n check write a) : Saves 0 check write a :=
  fun n _ _ _ _ => h n

/-- A raw value is kept with one member of each name, and is saved as it is kept. -/
theorem saves_raw (x : Json) : Saves 0 (fun j => .valid j.distinct) stored x := by
  intro n j _ legible read
  cases read
  have kept : Legible n j.distinct := within_distinct legible
  have same := stored_of_printed kept.every
  exact ⟨same.symm ▸ kept, by rw [same, distinct_distinct]⟩

/-! ### Lists, options and maps -/

theorem saved_nil {fault : Fault} :
    Saved n (fun j => sequence fault j fun v _ => check v) (fun as => arr (as.map write)) [] :=
  ⟨within_nothing.1, rfl⟩

theorem Saves.list {fault : Fault} {as : List α} (each : ∀ a ∈ as, Saves 0 check write a) :
    Saves 0 (fun j => sequence fault j fun v _ => check v) (fun as => arr (as.map write)) as := by
  intro n j _ legible read
  obtain ⟨items, rfl, related⟩ := sequence_eq_valid read
  rcases legible.items with rfl | ⟨k, rfl, inside⟩
  · obtain rfl := List.forall₂_nil_left_iff.mp related
    exact saved_nil
  · have saved : ∀ a ∈ as, Saved k check write a :=
      forall_of_forall₂ related inside fun v a member legible ok =>
        each a member k v (Nat.zero_le k) legible ok.2
    refine ⟨within_arr.mpr (List.forall_mem_map.mpr fun a member => (saved a member).legible), ?_⟩
    exact sequence_self fun a member _ => (saved a member).read

theorem saved_none : Saved n (asOption check) (ofOption write) none := ⟨legible_null, rfl⟩

theorem Saves.option {o : Option α} (given : ∀ a, write a ≠ null)
    (saves : ∀ a ∈ o, Saves room check write a) : Saves room (asOption check) (ofOption write) o := by
  intro n j enough legible read
  rcases asOption_eq_valid read with ⟨rfl, rfl⟩ | ⟨a, ok, rfl⟩
  · exact saved_none
  · have saved := saves a rfl n j enough legible ok
    refine ⟨saved.legible, asOption_self given fun b same => ?_⟩
    obtain rfl := Option.some.inj same
    exact saved.read

theorem saved_empty : Saved n (asMap check) (ofMap write) .empty := ⟨within_nothing.2, rfl⟩

theorem Saves.map {m : OrderedMap String α} (each : ∀ e ∈ m.entries, Saves 0 check write e.2) :
    Saves 0 (asMap check) (ofMap write) m := by
  intro n j _ legible read
  obtain ⟨members, es, rfl, rfl, related⟩ := asMap_eq_valid read
  rcases legible.members with rfl | ⟨k, rfl, inside⟩
  · obtain rfl := List.forall₂_nil_left_iff.mp related
    exact saved_empty
  · have read : ∀ e ∈ es, ∃ v, Legible k v ∧ check v = .valid e.2 :=
      forall_of_forall₂ related inside fun m e _ legible ok => ⟨m.2, legible, ok.2⟩
    have saved : ∀ e ∈ (OrderedMap.ofList es).entries, Saved k check write e.2 := by
      intro e member
      obtain ⟨v, legible, ok⟩ := read e (OrderedMap.mem_of_mem_ofList member)
      exact each e member k v (Nat.zero_le k) legible ok
    refine ⟨within_obj.mpr (List.forall_mem_map.mpr fun e member => (saved e member).legible), ?_⟩
    exact asMap_valid fun e member => (saved e member).read

theorem saves_strings {o : Option String} : Saves 0 (asOption asString) (ofOption str) o :=
  .option (fun _ => nofun) fun s _ => Saved.saves fun _ => saved_string s

end Json

end DocScript
