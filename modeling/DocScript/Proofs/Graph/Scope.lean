import DocScript.Proofs.Graph.Entry
import DocScript.Proofs.Script.Locals

/-!
# What passes declare

A pass declares a variable for each part that it finds, when it first leads there. Every edge
mentions its container, which is the start or was found before, and a part that is known.
-/

namespace DocScript

open Instr Walked Compile

variable {graph : Graph} {holder : Option String → String} {seen last known : List String}
  {owner : Option String} {es : List Edge} {walk more : List Walked} {is js : List Instr} {v : Walked}

/-- The variables that the instructions for an edge declare. -/
theorem Records.declaredIn (h : Records holder v is) :
    declaredIn is = (found [v]).map fun p => holder (some p.uri) := by
  cases h with
  | attached => rfl
  | @created _ _ _ _ _ routine creates relate =>
    have silent := declaredIn_eq_nil fun i member => (filled_aside relate routine i member).declares
    rw [List.append_assoc, declaredIn_append, silent]
    cases creates <;> rfl

theorem Records.walk_eq (h : Records holder v is) : ∀ i ∈ is, i.walk = [i] := by
  cases h with
  | attached =>
    intro i member
    rw [List.mem_singleton.mp member]
    rfl
  | created creates relate =>
    intro i member
    rw [List.append_assoc, List.mem_append] at member
    rcases member with creation | after
    · cases creates with
      | labelled _ _ =>
        rw [List.mem_singleton.mp creation]
        rfl
      | renamed _ =>
        simp only [List.mem_cons, List.not_mem_nil, or_false] at creation
        rcases creation with rfl | rfl <;> rfl
    · exact (filled_aside relate _ i after).walk

/-- The instructions for an edge mention its container, and its part if that is known. -/
theorem Records.scoped (h : Records holder v is) (self : holder v.owner ∈ known)
    (old : v.first = false → holder (some v.part.uri) ∈ known) : Scoped known is := by
  cases h with
  | attached =>
    refine scoped_of_reads ?_ ?_
    · intro i member
      rw [List.mem_singleton.mp member]
      rfl
    · intro i member x read
      rw [List.mem_singleton.mp member] at read
      simp only [invokeOn, Instr.reads, Expr.mentionsTarget, Expr.mentionsAll, Expr.mentions,
        Expr.text, List.append_nil, List.mem_append, List.mem_singleton] at read
      rcases read with rfl | rfl
      · exact self
      · exact old rfl
  | @created owner e p creation relations routine creates relate =>
    have made : Scoped known creation ∧ Instr.declaredIn creation = [holder (some p.uri)] := by
      cases creates with
      | labelled _ closed =>
        refine ⟨⟨fun x read => ?_, trivial⟩, rfl⟩
        simp only [Instr.reads, Expr.mentionsTarget, Expr.mentions, Expr.mentionsAll_append, closed,
          Expr.mentionsAll, Expr.text, List.append_nil, List.mem_singleton] at read
        exact read ▸ self
      | renamed closed =>
        refine ⟨⟨fun x read => ?_, fun x read => ?_, trivial⟩, rfl⟩
        · simp only [Instr.reads, Expr.mentionsTarget, Expr.mentions, closed, List.append_nil,
            List.mem_singleton] at read
          exact read ▸ self
        · simp only [invokeOn, Instr.reads, Expr.mentionsTarget, Expr.mentionsAll, Expr.mentions,
            Expr.text, List.append_nil, List.mem_append, List.mem_singleton] at read
          rcases read with rfl | rfl
          · exact List.mem_append_right _ self
          · exact List.mem_append_left _ List.mem_cons_self
    rw [List.append_assoc]
    have aside := filled_aside relate routine
    refine made.1.append (scoped_of_reads (fun i member => (aside i member).declares)
      fun i member x read => ?_)
    rw [made.2, (aside i member).reads x read]
    exact List.mem_append_left _ List.mem_cons_self

theorem RecordsAll.declaredIn (h : RecordsAll holder walk is) :
    declaredIn is = (found walk).map fun p => holder (some p.uri) := by
  induction h with
  | nil => rfl
  | @cons v walk block rest first others ih =>
    rw [declaredIn_append, first.declaredIn, ih, ← List.map_append, ← found_append]
    rfl

theorem RecordsAll.walk_eq (h : RecordsAll holder walk is) : ∀ i ∈ is, i.walk = [i] := by
  induction h with
  | nil => exact nofun
  | cons first _ ih =>
    intro i member
    rcases List.mem_append.mp member with early | late
    · exact first.walk_eq i early
    · exact ih i late

theorem RecordsAll.split (h : RecordsAll holder (walk ++ more) is) :
    ∃ front back, is = front ++ back ∧ RecordsAll holder walk front ∧ RecordsAll holder more back := by
  induction walk generalizing is with
  | nil => exact ⟨[], is, rfl, .nil, h⟩
  | cons v rest ih =>
    cases h with
    | cons first others =>
      obtain ⟨front, back, rfl, early, late⟩ := ih others
      exact ⟨_, back, (List.append_assoc _ _ _).symm, .cons first early, late⟩

/-- The instructions of a walk only mention what is known at its start or declared on it. -/
theorem RecordsAll.scoped (h : Explores graph seen owner es walk last)
    (records : RecordsAll holder walk is) (self : holder owner ∈ known)
    (old : ∀ uri ∈ seen, holder (some uri) ∈ known) : Scoped known is := by
  induction h generalizing is known with
  | done => cases records; trivial
  | again _ inside _ ih =>
    cases records with
    | cons first others =>
      refine (first.scoped self fun _ => old _ inside).append ?_
      rw [first.declaredIn]
      exact ih others self old
  | @first _ _ _ _ _ _ p _ _ _ _ explores _ below rest =>
    cases records with
    | cons first others =>
      obtain ⟨front, back, rfl, early, late⟩ := RecordsAll.split others
      have created : Instr.declaredIn _ = [holder (some p.uri)] := first.declaredIn
      refine (first.scoped self nofun).append ((below early ?_ fun uri member => ?_).append
        (rest late ?_ fun uri member => ?_))
      all_goals rw [created]
      · exact List.mem_append_left _ List.mem_cons_self
      · rcases List.mem_append.mp member with before | own
        · exact List.mem_append_right _ (old uri before)
        · rw [List.mem_singleton.mp own]
          exact List.mem_append_left _ List.mem_cons_self
      · exact List.mem_append_right _ (List.mem_append_right _ self)
      · rw [early.declaredIn]
        rw [explores.last_eq, List.mem_append, List.mem_append, List.mem_singleton] at member
        rcases member with (before | rfl) | new
        · exact List.mem_append_right _ (List.mem_append_right _ (old uri before))
        · exact List.mem_append_right _ (List.mem_append_left _ List.mem_cons_self)
        · obtain ⟨q, inside, rfl⟩ := List.mem_map.mp new
          exact List.mem_append_left _ (List.mem_map.mpr ⟨q, inside, rfl⟩)

/-- The variables for parts of a graph, after those for other parts. -/
def partLocals (ns : Namespaces) (earlier new : List Part) : List Local :=
  (Variable.numbered (earlier.map (·.type)) (new.map (·.type))).map fun v => ⟨v.type, v.partName ns⟩

namespace Pass

variable {parts : List Part} {start : String} {body : List Instr} {w : PartWork}

theorem walk_eq (h : Pass graph parts owner start es body walk w) : walkAll body = body := by
  obtain ⟨front, below, back, rfl, records, before, after⟩ := h.body
  refine walkAll_eq fun i member => ?_
  rw [List.mem_append, List.mem_append] at member
  rcases member with (early | inside) | late
  · exact (before i early).walk
  · exact records.walk_eq i inside
  · exact (after i late).walk

theorem declaredIn (h : Pass graph parts owner start es body walk w) {ns : Namespaces}
    (le : w.shared.namespaces ≤ ns) :
    Instr.declaredIn body = (partLocals ns parts (found walk)).map (·.name) := by
  have names := h.names ns le
  obtain ⟨front, below, back, rfl, records, before, after⟩ := h.body
  rw [declaredIn_append, declaredIn_append, records.declaredIn,
    declaredIn_eq_nil fun i member => (before i member).declares,
    declaredIn_eq_nil fun i member => (after i member).declares, names, partLocals, List.map_map,
    List.nil_append, List.append_nil]
  rfl

theorem mentions (h : Pass graph parts owner start es body walk w)
    (known : ∀ p ∈ parts, owner = some p.uri) : Scoped [start] body := by
  have held := h.held
  obtain ⟨front, below, back, rfl, records, before, after⟩ := h.body
  have aside {is : List Instr} {names : List String} (inside : start ∈ names)
      (each : ∀ i ∈ is, i.Aside start) : Scoped names is := by
    refine scoped_of_reads (fun i member => (each i member).declares) fun i member x read => ?_
    rw [(each i member).reads x read]
    exact inside
  have silent := declaredIn_eq_nil fun i member => (before i member).declares
  refine ((aside List.mem_cons_self before).append ?_).append ?_
  · rw [silent]
    refine records.scoped h.explores (by simp [held]) fun uri member => ?_
    obtain ⟨p, inside, rfl⟩ := List.mem_map.mp member
    rw [← known p inside, held]
    exact List.mem_cons_self
  · exact aside (List.mem_append_right _ List.mem_cons_self) after

/-- A routine with one parameter, from which all edges are walked. -/
theorem holds {r : Routine} (h : Pass graph parts owner start es r.body walk w)
    (known : ∀ p ∈ parts, owner = some p.uri) (parameters : r.parameterNames = [start])
    (returns : r.returns = none) {ns : Namespaces} (le : w.shared.namespaces ≤ ns) :
    r.Holds (partLocals ns parts (found walk)) where
  mentions := by
    rw [parameters, Routine.walk, h.walk_eq]
    exact h.mentions known
  returns := by
    rw [returns]
    exact nofun
  declared := by
    rw [Routine.walk, h.walk_eq]
    exact h.declaredIn le
  parameters := by simp [parameters]
  numbered := Local.numbered_of_nodup (fun _ _ _ => Variable.partName_inj)
    (Variable.nodup_numbered _ _)

end Pass

end DocScript
