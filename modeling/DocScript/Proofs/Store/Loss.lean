import DocScript.Proofs.Store.Replay

/-!
# Objects that are lost

A variable that is given a new object lets go of the one that it held. If nothing refers to that
object yet, nothing ever will: it is lost. This is what happens where two things that are live
together have the same name, so that only plans without such names are rebuilt without loss.
-/

namespace DocScript

namespace Store

variable {s s' : Store} {i : Instr} {j o : Nat} {x : String} {e : Entry Nat} {made : Expr}

/-- An instruction changes nothing, makes an object, or adds to the record of an object that a
variable holds; the entry only refers to an object that a variable holds. -/
theorem exec_cases (h : exec i s = some s') :
    s' = s ∨ (∃ x made, s' = s.bind x made) ∨
      ∃ o e owner, s' = s.record o e ∧ s.env owner = some o ∧
        ∀ j, e.object? = some j → ∃ x, s.env x = some j := by
  have refer {owner x : String} {entry : Nat → Entry Nat} (shape : ∀ i, (entry i).object? = some i)
      (h : ((s.env owner).bind fun o => (s.env x).map fun i => s.record o (entry i)) = some s') :
      ∃ o e owner, s' = s.record o e ∧ s.env owner = some o ∧
        ∀ j, e.object? = some j → ∃ x, s.env x = some j := by
    obtain ⟨o, held, h⟩ := Option.bind_eq_some_iff.mp h
    obtain ⟨i, value, rfl⟩ := Option.map_eq_some_iff.mp h
    refine ⟨o, entry i, owner, rfl, held, fun j same => ⟨x, ?_⟩⟩
    rw [value, ← same, shape]
  have flat {owner : String} {entry : Entry Nat} (shape : entry.object? = none)
      (h : (s.env owner).map (fun o => s.record o entry) = some s') :
      ∃ o e owner, s' = s.record o e ∧ s.env owner = some o ∧
        ∀ j, e.object? = some j → ∃ x, s.env x = some j := by
    obtain ⟨o, held, rfl⟩ := Option.map_eq_some_iff.mp h
    refine ⟨o, entry, owner, rfl, held, fun j same => ?_⟩
    rw [shape] at same
    cases same
  unfold exec at h
  split at h
  · exact Or.inr (Or.inl ⟨_, _, (Option.some.inj h).symm⟩)
  · exact Or.inr (Or.inl ⟨_, _, (Option.some.inj h).symm⟩)
  · exact Or.inr (Or.inr (refer (fun _ => rfl) h))
  · exact Or.inr (Or.inr (flat rfl h))
  · unfold invoked at h
    split at h
    · split at h
      · exact Or.inr (Or.inr (flat rfl h))
      · cases h
    · split at h
      · exact Or.inr (Or.inr (refer (fun _ => rfl) h))
      · cases h
    · cases h
  · exact Or.inl (Option.some.inj h).symm
  · exact Or.inl (Option.some.inj h).symm
  · cases h

/-- A property of stores that each instruction keeps is kept by a run. -/
theorem run_induction {motive : Store → Prop} (step : ∀ i s s', motive s → exec i s = some s' → motive s')
    {is : List Instr} (h : run is s = some s') (start : motive s) : motive s' := by
  induction is generalizing s with
  | nil => exact Option.some.inj h ▸ start
  | cons i rest ih =>
    rw [run] at h
    obtain ⟨u, first, h⟩ := Option.bind_eq_some_iff.mp h
    exact ih h (step i s u start first)

/-- Each object is held by one variable at most, and only objects of the store are held or
referred to. -/
structure Sound (s : Store) : Prop where
  apart : ∀ x y j, s.env x = some j → s.env y = some j → x = y
  held : ∀ x j, s.env x = some j → j < s.things.length
  refer : ∀ thing ∈ s.things, ∀ e ∈ thing.log, ∀ j, e.object? = some j → j < s.things.length

theorem sound_empty : empty.Sound := ⟨nofun, nofun, nofun⟩

theorem Sound.not_attached (sound : s.Sound) (outside : s.things.length ≤ j) : ¬ s.Attached j := by
  rintro ⟨thing, member, e, entry, refers⟩
  have := sound.refer thing member e entry j refers
  omega

theorem attached_bind : (s.bind x made).Attached j ↔ s.Attached j := by
  constructor
  · rintro ⟨thing, member, e, entry, refers⟩
    rcases List.mem_append.mp member with old | new
    · exact ⟨thing, old, e, entry, refers⟩
    · obtain rfl := List.mem_singleton.mp new
      cases entry
  · rintro ⟨thing, member, e, entry, refers⟩
    exact ⟨thing, List.mem_append_left _ member, e, entry, refers⟩

theorem mem_things_record {thing : Thing} (member : thing ∈ (s.record o e).things) :
    thing ∈ s.things ∨ ∃ t ∈ s.things, thing = ⟨t.made, t.log ++ [e]⟩ := by
  obtain ⟨k, found⟩ := List.mem_iff_getElem?.mp member
  change (s.things.modify o _)[k]? = _ at found
  rw [List.getElem?_modify] at found
  obtain ⟨t, old, same⟩ := Option.map_eq_some_iff.mp found
  have inside := List.mem_of_getElem? old
  split at same
  · exact Or.inr ⟨t, inside, same.symm⟩
  · exact Or.inl (same ▸ inside)

theorem attached_record (h : (s.record o e).Attached j) : s.Attached j ∨ e.object? = some j := by
  obtain ⟨thing, member, f, entry, refers⟩ := h
  rcases mem_things_record member with old | ⟨t, old, rfl⟩
  · exact Or.inl ⟨thing, old, f, entry, refers⟩
  · rcases List.mem_append.mp entry with before | last
    · exact Or.inl ⟨t, old, f, before, refers⟩
    · obtain rfl := List.mem_singleton.mp last
      exact Or.inr refers

theorem length_record : (s.record o e).things.length = s.things.length := List.length_modify _ _ _

theorem Sound.exec (i : Instr) (s s' : Store) (sound : s.Sound) (h : Store.exec i s = some s') :
    s'.Sound := by
  rcases exec_cases h with rfl | ⟨x, made, rfl⟩ | ⟨o, e, owner, rfl, _, known⟩
  · exact sound
  · -- The new object is behind all objects that are held or referred to.
    have new {y : String} {j : Nat} (held : (s.bind x made).env y = some j) :
        (y = x ∧ j = s.things.length) ∨ (y ≠ x ∧ s.env y = some j) := by
      unfold Store.bind at held
      dsimp only at held
      split at held
      · exact Or.inl ⟨‹_›, (Option.some.inj held).symm⟩
      · exact Or.inr ⟨‹_›, held⟩
    have longer : (s.bind x made).things.length = s.things.length + 1 := List.length_append
    refine ⟨fun y z j hy hz => ?_, fun y j hy => ?_, fun thing member e entry j refers => ?_⟩
    · rcases new hy with ⟨rfl, rfl⟩ | ⟨_, old⟩ <;> rcases new hz with ⟨rfl, last⟩ | ⟨_, old'⟩
      · rfl
      · have := sound.held z _ old'
        omega
      · have := sound.held y _ old
        omega
      · exact sound.apart y z j old old'
    · rw [longer]
      rcases new hy with ⟨_, rfl⟩ | ⟨_, hy⟩
      · exact Nat.lt_succ_self _
      · exact Nat.lt_succ_of_lt (sound.held y j hy)
    · rw [longer]
      rcases List.mem_append.mp member with old | last
      · exact Nat.lt_succ_of_lt (sound.refer thing old e entry j refers)
      · obtain rfl := List.mem_singleton.mp last
        cases entry
  · refine ⟨sound.apart, fun y j hy => ?_, fun thing member f entry j refers => ?_⟩
    · rw [length_record]
      exact sound.held y j hy
    · rw [length_record]
      rcases attached_record ⟨thing, member, f, entry, refers⟩ with
        ⟨thing, member, f, entry, refers⟩ | refers
      · exact sound.refer thing member f entry j refers
      · obtain ⟨x, held⟩ := known j refers
        exact sound.held x j held

theorem Sound.run (sound : s.Sound) {is : List Instr} (h : Store.run is s = some s') : s'.Sound :=
  run_induction Sound.exec h sound

/-- No variable holds the object, and nothing refers to it. -/
structure Lost (s : Store) (j : Nat) : Prop where
  made : j < s.things.length
  unheld : ∀ x, s.env x ≠ some j
  unattached : ¬ s.Attached j

theorem Lost.exec (i : Instr) (s s' : Store) (lost : s.Lost j) (h : Store.exec i s = some s') :
    s'.Lost j := by
  rcases exec_cases h with rfl | ⟨x, made, rfl⟩ | ⟨o, e, owner, rfl, _, known⟩
  · exact lost
  · refine ⟨?_, fun y held => ?_, fun attached => lost.unattached (attached_bind.mp attached)⟩
    · exact Nat.lt_of_lt_of_le lost.made (List.length_append ▸ Nat.le_add_right _ _)
    · unfold Store.bind at held
      dsimp only at held
      split at held
      · exact Nat.ne_of_gt lost.made (Option.some.inj held)
      · exact lost.unheld y held
  · refine ⟨length_record.symm ▸ lost.made, lost.unheld, fun attached => ?_⟩
    rcases attached_record attached with before | refers
    · exact lost.unattached before
    · obtain ⟨x, held⟩ := known j refers
      exact lost.unheld x held

theorem Lost.run (lost : s.Lost j) {is : List Instr} (h : Store.run is s = some s') : s'.Lost j :=
  run_induction Lost.exec h lost

/-- Each of some variables holds an object that nothing refers to yet. -/
def Pending (s : Store) (live : List String) : Prop :=
  ∀ x ∈ live, ∃ j, s.env x = some j ∧ ¬ s.Attached j

/-- Giving such a variable another object loses the one that it held. -/
theorem lost_bind {live : List String} (made : Expr) (sound : s.Sound) (pending : s.Pending live)
    (member : x ∈ live) : ∃ j, (s.bind x made).Lost j := by
  obtain ⟨j, held, unattached⟩ := pending x member
  have inside := sound.held x j held
  refine ⟨j, ?_, fun y again => ?_, fun attached => unattached (attached_bind.mp attached)⟩
  · exact Nat.lt_of_lt_of_le inside (List.length_append ▸ Nat.le_add_right _ _)
  · unfold Store.bind at again
    dsimp only at again
    split at again
    · exact Nat.ne_of_gt inside (Option.some.inj again)
    · next other => exact other (sound.apart y x j again held)

/-- Giving any other variable an object makes it one of them. -/
theorem pending_bind {live : List String} (made : Expr) (sound : s.Sound) (pending : s.Pending live)
    (outside : x ∉ live) : (s.bind x made).Pending (x :: live) := by
  intro y member
  rcases List.mem_cons.mp member with rfl | member
  · exact ⟨s.things.length, if_pos rfl,
      fun attached => sound.not_attached (Nat.le_refl _) (attached_bind.mp attached)⟩
  · obtain ⟨j, held, unattached⟩ := pending y member
    have other : y ≠ x := fun same => outside (same ▸ member)
    exact ⟨j, (if_neg other).trans held, fun attached => unattached (attached_bind.mp attached)⟩

/-- New objects that only refer to each other change nothing for the old ones. -/
theorem pending_extend {live : List String} (sound : s.Sound) (pending : s.Pending live)
    {env : String → Option Nat} (same : ∀ x ∈ live, env x = s.env x) {more : List Thing}
    (refer : ∀ thing ∈ more, ReferFrom s.things.length thing.log) :
    Pending ⟨env, s.things ++ more⟩ live := by
  intro x member
  obtain ⟨j, held, unattached⟩ := pending x member
  refine ⟨j, (same x member).trans held, ?_⟩
  rintro ⟨thing, inside, e, entry, refers⟩
  rcases List.mem_append.mp inside with old | new
  · exact unattached ⟨thing, old, e, entry, refers⟩
  · have low := refer thing new e entry j refers
    have high := sound.held x j held
    omega

end Store

end DocScript
