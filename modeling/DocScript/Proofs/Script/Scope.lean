import DocScript.Script.Basic

/-!
# Names in scripts

A routine is read in order, each scope as its acquisition, its body and its release. Whatever it
mentions should be a parameter or declared before, and it should declare no name twice.
-/

namespace DocScript

namespace Expr

mutual

/-- The variables that an expression mentions, by value or by reference. -/
def mentions : Expr → List String
  | var name | byRef name => [name]
  | construct _ _ args => mentionsAll args
  | call target _ _ args => mentionsTarget target ++ mentionsAll args
  | primitive _ | type _ | constant _ _ => []

/-- The variables that the target of a call mentions. -/
def mentionsTarget : Option Expr → List String
  | none => []
  | some e => mentions e

def mentionsAll : List Expr → List String
  | [] => []
  | e :: rest => mentions e ++ mentionsAll rest

end

theorem mentionsAll_append (es fs : List Expr) :
    mentionsAll (es ++ fs) = mentionsAll es ++ mentionsAll fs := by
  induction es with
  | nil => rfl
  | cons e rest ih => rw [List.cons_append, mentionsAll, mentionsAll, ih, List.append_assoc]

end Expr

namespace Instr

/-- The variables that an instruction reads; those that hold a variable which is given a new value
count, and what stands inside a scope does not. -/
def reads : Instr → List String
  | declare _ _ _ value => Expr.mentionsTarget value
  | assign target _ value => target.mentions ++ value.mentions
  | invoke call => Expr.mentionsTarget call.target ++ Expr.mentionsAll call.args
  | comment _ | blank | scope _ _ _ => []

def declares : Instr → List String
  | declare name _ _ _ => [name]
  | _ => []

/-- The variables that some instructions declare, in order. -/
def declaredIn (is : List Instr) : List String := is.flatMap declares

/-- Each instruction only reads variables that are known or declared before it. -/
def Scoped : List String → List Instr → Prop
  | _, [] => True
  | known, i :: rest => (∀ x ∈ i.reads, x ∈ known) ∧ Scoped (i.declares ++ known) rest

variable {known more : List String} {is js : List Instr}

theorem declaredIn_append (is js : List Instr) :
    declaredIn (is ++ js) = declaredIn is ++ declaredIn js := List.flatMap_append

theorem declaredIn_eq_nil (h : ∀ i ∈ is, i.declares = []) : declaredIn is = [] :=
  List.flatMap_eq_nil_iff.mpr h

theorem Scoped.mono (h : Scoped known is) (sub : known ⊆ more) : Scoped more is := by
  induction is generalizing known more with
  | nil => trivial
  | cons i rest ih =>
    refine ⟨fun x member => sub (h.1 x member), ih h.2 fun x member => ?_⟩
    rcases List.mem_append.mp member with own | old
    · exact List.mem_append_left _ own
    · exact List.mem_append_right _ (sub old)

/-- The position of each instruction tells what is declared before it. -/
theorem scoped_iff : Scoped known is ↔ ∀ before i after, is = before ++ i :: after →
    ∀ x ∈ i.reads, x ∈ known ∨ x ∈ declaredIn before := by
  induction is generalizing known with
  | nil =>
    refine ⟨fun _ before i after same => ?_, fun _ => trivial⟩
    simp at same
  | cons i rest ih =>
    rw [Scoped, ih]
    constructor
    · rintro ⟨first, others⟩ before j after same x read
      cases before with
      | nil =>
        obtain ⟨rfl, _⟩ := List.cons.inj same
        exact Or.inl (first x read)
      | cons k before =>
        obtain ⟨rfl, tails⟩ := List.cons.inj same
        rcases others before j after tails x read with found | earlier
        · rcases List.mem_append.mp found with own | old
          · exact Or.inr (List.mem_append_left _ own)
          · exact Or.inl old
        · exact Or.inr (List.mem_append_right _ earlier)
    · intro h
      refine ⟨fun x read => ?_, fun before j after same x read => ?_⟩
      · rcases h [] i rest rfl x read with old | none
        · exact old
        · cases none
      · rcases h (i :: before) j after (by rw [same]; rfl) x read with old | earlier
        · exact Or.inl (List.mem_append_right _ old)
        · rcases List.mem_append.mp earlier with own | earlier
          · exact Or.inl (List.mem_append_left _ own)
          · exact Or.inr earlier

theorem Scoped.append (first : Scoped known is) (second : Scoped (declaredIn is ++ known) js) :
    Scoped known (is ++ js) := by
  induction is generalizing known with
  | nil => exact second
  | cons i rest ih =>
    refine ⟨first.1, ih first.2 (second.mono fun x member => ?_)⟩
    simp only [declaredIn, List.flatMap_cons, List.mem_append] at member ⊢
    rcases member with (own | later) | old
    · exact Or.inr (Or.inl own)
    · exact Or.inl later
    · exact Or.inr (Or.inr old)

/-- Instructions that declare nothing are only looked at one by one. -/
theorem scoped_of_reads (silent : ∀ i ∈ is, i.declares = [])
    (reads : ∀ i ∈ is, ∀ x ∈ i.reads, x ∈ known) : Scoped known is := by
  induction is with
  | nil => trivial
  | cons i rest ih =>
    refine ⟨reads i List.mem_cons_self, ?_⟩
    rw [silent i List.mem_cons_self]
    exact ih (fun j member => silent j (List.mem_cons_of_mem _ member))
      fun j member => reads j (List.mem_cons_of_mem _ member)

theorem walkAll_append (is js : List Instr) : walkAll (is ++ js) = walkAll is ++ walkAll js := by
  induction is with
  | nil => rfl
  | cons i rest ih => rw [List.cons_append, walkAll, walkAll, ih, List.append_assoc]

/-- Without scopes there is nothing inside the instructions. -/
theorem walkAll_eq (h : ∀ i ∈ is, i.walk = [i]) : walkAll is = is := by
  induction is with
  | nil => rfl
  | cons i rest ih =>
    rw [walkAll, h i List.mem_cons_self, ih fun j member => h j (List.mem_cons_of_mem _ member)]
    rfl

end Instr

def Routine.parameterNames (r : Routine) : List String := r.parameters.map (·.name)

/-- Whatever a routine mentions is one of its parameters or declared before. -/
structure Routine.DefinedBeforeUse (r : Routine) : Prop where
  body : ∀ before i after, r.walk = before ++ i :: after →
    ∀ x ∈ i.reads, x ∈ r.parameterNames ∨ x ∈ Instr.declaredIn before
  returns : ∀ x ∈ Expr.mentionsTarget r.returns, x ∈ r.parameterNames ∨ x ∈ Instr.declaredIn r.walk

/-- A routine declares no name twice, and none of its parameters. -/
def Routine.DeclaresOnce (r : Routine) : Prop := (r.parameterNames ++ Instr.declaredIn r.walk).Nodup

end DocScript
