import DocScript.Proofs.Store.Loss

/-!
# What is rebuilt

The code of a plan rebuilds its tree if and only if the names of what is live together are
different and each child has a name that is not empty. If a name is used for two things that are
live together, an object is lost; if a child has no name, it is not appended.
-/

namespace DocScript

open Store

variable {sp : Spelling} {s s' : Store} {live : List String}

theorem refer_values (vs : List Attachment) (at_ : Nat) :
    ∀ thing ∈ vs.map (·.thing), ReferFrom at_ thing.log := by
  intro thing member e entry j refers
  obtain ⟨v, _, rfl⟩ := List.mem_map.mp member
  obtain ⟨field, _, rfl⟩ := List.mem_map.mp entry
  cases refers

/-- Either an object is lost while the values of an element are made, or their names are new. -/
theorem lost_or_values {vs : List Attachment} (sound : s.Sound) (pending : s.Pending live)
    (ran : run (vs.flatMap (·.code sp)) s = some s') :
    (∃ j, s'.Lost j) ∨
      ((vs.map fun v => sp.variableName v.holder).Nodup ∧
        (∀ x ∈ vs.map fun v => sp.variableName v.holder, x ∉ live) ∧
        s'.Pending ((vs.map fun v => sp.variableName v.holder) ++ live)) := by
  induction vs generalizing s live with
  | nil =>
    obtain rfl := Option.some.inj ran
    exact Or.inr ⟨List.nodup_nil, by simp, pending⟩
  | cons v rest ih =>
    have first := run_value sp v s
    rw [List.flatMap_cons, run_append_of first] at ran
    by_cases again : sp.variableName v.holder ∈ live
    · obtain ⟨j, lost⟩ := lost_bind v.creation.made sound pending again
      rw [Attachment.code, List.cons_append, run_cons_of (exec_creation sp v.creation s)] at first
      exact Or.inl ⟨j, (lost.run first).run ran⟩
    · have pending' : Pending ⟨(s.bind (sp.variableName v.holder) v.creation.made).env,
          s.things ++ [v.thing]⟩ (sp.variableName v.holder :: live) := by
        intro x member
        obtain ⟨j, held, unattached⟩ := pending_bind v.creation.made sound pending again
          x member
        refine ⟨j, held, fun attached => unattached (attached_bind.mpr ?_)⟩
        obtain ⟨thing, inside, e, entry, refers⟩ := attached
        rcases List.mem_append.mp inside with old | new
        · exact ⟨thing, old, e, entry, refers⟩
        · have far := refer_values [v] (j + 1) thing new e entry j refers
          omega
      rcases ih (sound.run first) pending' ran with lost | ⟨nodup, apart, pending⟩
      · exact Or.inl lost
      · refine Or.inr ⟨?_, fun x member => ?_, fun x member => ?_⟩
        · refine List.nodup_cons.mpr ⟨fun member => ?_, nodup⟩
          exact apart _ member List.mem_cons_self
        · rcases List.mem_cons.mp member with rfl | member
          · exact again
          · exact fun old => apart x member (List.mem_cons_of_mem _ old)
        · refine pending x ?_
          simp only [List.map_cons, List.cons_append, List.mem_cons, List.mem_append] at member ⊢
          rcases member with same | here | there
          · exact Or.inr (Or.inl same)
          · exact Or.inl here
          · exact Or.inr (Or.inr there)

/-- Either an object is lost while an element is made, or its name and those of its values are
new. -/
theorem lost_or_head {vs : List Attachment} {c : Creation} {ds : List (String × String)}
    {simple enums : List Setting} (sound : s.Sound) (pending : s.Pending live) (distinct : live.Nodup)
    (ran : run (Plan.headCode sp vs c ds simple enums) s = some s') :
    (∃ j, s'.Lost j) ∨
      (sp.variableName c.holder :: (vs.map fun v => sp.variableName v.holder) ++ live).Nodup := by
  simp only [Plan.headCode, List.append_assoc, List.cons_append] at ran
  rw [run_append] at ran
  obtain ⟨u, values, ran⟩ := Option.bind_eq_some_iff.mp ran
  have sound' := sound.run values
  rcases lost_or_values sound pending values with ⟨j, lost⟩ | ⟨nodup, apart, pending⟩
  · exact Or.inl ⟨j, lost.run ran⟩
  · rw [run_cons_of (exec_creation sp c u)] at ran
    by_cases again : sp.variableName c.holder ∈ (vs.map fun v => sp.variableName v.holder) ++ live
    · obtain ⟨j, lost⟩ := lost_bind c.made sound' pending again
      exact Or.inl ⟨j, lost.run ran⟩
    · refine Or.inr (List.nodup_cons.mpr ⟨again, List.nodup_append.mpr ⟨nodup, distinct, ?_⟩⟩)
      rintro x member y old rfl
      exact apart x member old

/-- After an element has been made, its object waits to be appended. -/
theorem pending_head {vs : List Attachment} {c : Creation} {ds : List (String × String)}
    {simple enums : List Setting} (sound : s.Sound) (pending : s.Pending live)
    (distinct : (sp.variableName c.holder :: (vs.map fun v => sp.variableName v.holder) ++ live).Nodup)
    (ran : run (Plan.headCode sp vs c ds simple enums) s = some s') :
    s'.Pending (sp.variableName c.holder :: live) := by
  rw [List.nodup_append] at distinct
  obtain ⟨own, _, apart⟩ := distinct
  obtain ⟨env, made, self, frame⟩ := run_headCode ds simple enums own s
  rw [made, List.append_assoc] at ran
  obtain rfl := Option.some.inj ran
  have same (x : String) (member : x ∈ live) : env x = s.env x :=
    frame x fun mine => apart x mine x member rfl
  intro x member
  rcases List.mem_cons.mp member with rfl | member
  · refine ⟨_, self, ?_⟩
    rintro ⟨thing, inside, e, entry, refers⟩
    rcases List.mem_append.mp inside with old | new
    · have := sound.refer thing old e entry _ refers
      omega
    · rcases List.mem_append.mp new with value | element
      · have := refer_values vs (s.things.length + vs.length + 1) thing value e entry _ refers
        omega
      · obtain rfl := List.mem_singleton.mp element
        obtain ⟨⟨v, i⟩, part, rfl⟩ := List.mem_map.mp (mem_parts_of_headLog entry refers)
        obtain rfl := Option.some.inj refers
        have := (List.mem_zipIdx part).2.1
        omega
  · refine pending_extend sound pending same (fun thing new e entry j refers => ?_) x member
    rcases List.mem_append.mp new with value | element
    · exact refer_values vs _ thing value e entry j refers
    · obtain rfl := List.mem_singleton.mp element
      obtain ⟨⟨v, i⟩, part, rfl⟩ := List.mem_map.mp (mem_parts_of_headLog entry refers)
      obtain rfl := Option.some.inj refers
      exact (List.mem_zipIdx part).1

/-- Either an object is lost in a run of the code of a plan, or the names of what is live together
are different. -/
def Loses (sp : Spelling) (p : Plan) : Prop :=
  ∀ live s s', s.Sound → s.Pending live → live.Nodup → run (p.code sp) s = some s' →
    (∃ j, s'.Lost j) ∨ p.Distinct sp.variableName live

theorem lost_or_below (ps : List Plan) (each : ∀ p ∈ ps, Loses sp p) {owner : String}
    (member : owner ∈ live) (sound : s.Sound) (pending : s.Pending live) (distinct : live.Nodup)
    (ran : run (Plan.codeBelow sp owner ps) s = some s') :
    (∃ j, s'.Lost j) ∨ Plan.DistinctBelow sp.variableName live ps := by
  induction ps generalizing s with
  | nil => exact Or.inr trivial
  | cons p rest ih =>
    rw [Plan.codeBelow, List.append_assoc, run_append] at ran
    obtain ⟨u, first, others⟩ := Option.bind_eq_some_iff.mp ran
    rw [run_append] at others
    obtain ⟨v, appended, last⟩ := Option.bind_eq_some_iff.mp others
    rcases each p List.mem_cons_self live s u sound pending distinct first with ⟨j, lost⟩ | here
    · exact Or.inl ⟨j, (lost.run appended).run last⟩
    · obtain ⟨env, made, self, frame⟩ := replays sp p live s here
      obtain rfl := Option.some.inj (made.symm.trans first)
      have sound' := sound.run first
      have pending' := pending_extend sound pending frame (objects_refer sp.named p s.things.length)
      have pending'' : v.Pending live := by
        unfold Compile.append at appended
        split at appended
        · exact Option.some.inj appended ▸ pending'
        · obtain ⟨o, held, _⟩ := pending' owner member
          rw [run_cons_of (exec_append held self)] at appended
          obtain rfl := Option.some.inj appended
          -- What is appended is new, and so no object that was waiting before.
          intro x inside
          obtain ⟨j, held, unattached⟩ := pending' x inside
          refine ⟨j, held, fun attached => ?_⟩
          rcases attached_record attached with before | refers
          · exact unattached before
          · obtain rfl := Option.some.inj refers
            have low := sound.held x _ ((frame x inside).symm.trans held)
            rw [Plan.place] at low
            omega
      rcases ih (fun q inside => each q (List.mem_cons_of_mem _ inside)) (sound'.run appended)
        pending'' last with lost | others
      · exact Or.inl lost
      · exact Or.inr ⟨here, others⟩

theorem lost_or_distinct (sp : Spelling) (p : Plan) : Loses sp p := by
  induction p using Plan.induction with
  | step p ih =>
    intro live s s' sound pending distinct ran
    cases p with
    | bare c =>
      rw [Plan.code, run_cons_of (exec_creation sp c s)] at ran
      rw [Plan.Distinct]
      by_cases again : sp.variableName c.holder ∈ live
      · obtain ⟨j, lost⟩ := lost_bind c.made sound pending again
        exact Or.inl ⟨j, lost.run ran⟩
      · exact Or.inr (List.nodup_cons.mpr ⟨again, distinct⟩)
    | full vs c ds simple enums ps =>
      rw [Plan.code, run_append] at ran
      obtain ⟨u, head, ran⟩ := Option.bind_eq_some_iff.mp ran
      rw [Plan.Distinct]
      rcases lost_or_head sound pending distinct head with ⟨j, lost⟩ | own
      · exact Or.inl ⟨j, lost.run ran⟩
      · have pending' := pending_head sound pending own head
        have outside : sp.variableName c.holder ∉ live := fun member =>
          (List.nodup_cons.mp own).1 (List.mem_append_right _ member)
        rcases lost_or_below ps ih List.mem_cons_self (sound.run head) pending'
          (List.nodup_cons.mpr ⟨outside, distinct⟩) ran with lost | below
        · exact Or.inl lost
        · exact Or.inr ⟨own, below⟩

/-- Running the instructions from the start leaves the named variable holding an object that looks
like the tree, and every other object is part of another one. The latter is more than what the
object unfolds to: nothing is made that is then left over. -/
def ElementOutput.Rebuilds (out : ElementOutput) (tree : Tree) : Prop :=
  ∃ s i, run out.instructions .empty = some s ∧ s.env out.name = some i ∧
    Unfolds s.things tree i ∧ ∀ j < s.things.length, j ≠ i → s.Attached j

/-- What is live together has different names, and no child has an empty one. -/
structure Plan.Apart (sp : Spelling) (p : Plan) : Prop where
  distinct : p.Distinct sp.variableName []
  named : p.Kept sp.named

/-- The code of a plan rebuilds the tree of the plan if and only if its names are apart. -/
theorem rebuilds_iff_apart (sp : Spelling) (p : Plan) :
    (ElementOutput.mk (p.code sp) (p.name sp)).Rebuilds p.wholeTree ↔ p.Apart sp := by
  have looks := unfolds_objects sp.named p [] []
  rw [List.nil_append, List.append_nil] at looks
  constructor
  · rintro ⟨s, i, ran, held, tree, attached⟩
    have distinct : p.Distinct sp.variableName [] := by
      rcases lost_or_distinct sp p [] .empty s sound_empty nofun List.nodup_nil ran with
        ⟨j, lost⟩ | distinct
      · have other : j ≠ i := by
          rintro rfl
          exact lost.unheld _ held
        exact (lost.unattached (attached j lost.made other)).elim
      · exact distinct
    obtain ⟨env, made, self, _⟩ := replays sp p [] .empty distinct
    obtain rfl := Option.some.inj (made.symm.trans ran)
    obtain rfl := Option.some.inj (self.symm.trans held)
    have whole : p.tree sp.named = p.wholeTree := Unfolds.unique looks tree
    exact ⟨distinct, (Plan.tree_eq_wholeTree p).mp whole⟩
  · rintro ⟨distinct, named⟩
    obtain ⟨env, made, self, _⟩ := replays sp p [] .empty distinct
    refine ⟨_, _, made, self, ?_, fun j high other => ?_⟩
    · rw [← (Plan.tree_eq_wholeTree p).mpr named]
      exact looks
    · exact objects_attached p named 0 j (Nat.zero_le j) ((Nat.zero_add _).symm ▸ high) other

end DocScript
