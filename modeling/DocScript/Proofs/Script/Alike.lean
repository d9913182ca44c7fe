import DocScript.Compile.Element
import DocScript.Proofs.Script.Scope
import Mathlib.Data.List.Forall2

/-!
# Scripts up to the names of variables

Two instructions are alike if they differ only in the names of variables, which comments may quote,
and in that one gives a value to a variable that the other declares.
-/

namespace DocScript

namespace Expr

mutual

/-- An expression in which no variable has a name. -/
def unnamed : Expr → Expr
  | var _ => var ""
  | byRef _ => byRef ""
  | construct typeName typeArgs args => construct typeName typeArgs (unnamedAll args)
  | call target operation typeArgs args =>
    call (unnamedTarget target) operation typeArgs (unnamedAll args)
  | e => e

def unnamedTarget : Option Expr → Option Expr
  | none => none
  | some e => some (unnamed e)

def unnamedAll : List Expr → List Expr
  | [] => []
  | e :: rest => unnamed e :: unnamedAll rest

end

end Expr

namespace Instr

mutual

def unnamed : Instr → Instr
  | declare _ typeName typeArgs value => declare "" typeName typeArgs (Expr.unnamedTarget value)
  | assign target member value => assign target.unnamed member value.unnamed
  | invoke c =>
    invoke ⟨Expr.unnamedTarget c.target, c.operation, c.typeArgs, Expr.unnamedAll c.args⟩
  | scope acquire body release =>
    scope (unnamedAll acquire) (unnamedAll body) (unnamedAll release)
  | i => i

def unnamedAll : List Instr → List Instr
  | [] => []
  | i :: rest => unnamed i :: unnamedAll rest

end

/-- The instruction gives a new value to a variable that exists. -/
def reassigns : Instr → Bool
  | assign _ none _ => true
  | _ => false

/-- The first instruction is the second up to names; the second may use an existing variable in
place of a new one. -/
inductive Alike : Instr → Instr → Prop
  | renamed {i j : Instr} (same : i.unnamed = j.unnamed) : Alike i j
  | reused (name name' typeName : String) (typeArgs : List String) {value value' : Expr}
      (same : value.unnamed = value'.unnamed) :
      Alike (.declare name typeName typeArgs (some value)) (.assign (.var name') none value')
  | comment (property name name' owner raw : String) :
      Alike (.comment (Compile.enumComment property name owner raw))
        (.comment (Compile.enumComment property name' owner raw))

theorem Alike.refl (i : Instr) : Alike i i := .renamed rfl

/-- Neither the instruction nor any inside it gives a new value to a variable that exists. -/
def Fresh (i : Instr) : Prop := ∀ k ∈ i.walk, k.reassigns = false

theorem fresh_of_walk {i : Instr} (flat : i.walk = [i]) (new : i.reassigns = false) : i.Fresh := by
  intro k member
  rw [flat, List.mem_singleton] at member
  rw [member]
  exact new

theorem fresh_walkAll {is : List Instr} (fresh : ∀ i ∈ is, i.Fresh) :
    ∀ k ∈ walkAll is, k.reassigns = false := by
  induction is with
  | nil => nofun
  | cons i rest ih =>
    intro k member
    unfold walkAll at member
    rcases List.mem_append.mp member with here | later
    · exact fresh i List.mem_cons_self k here
    · exact ih (fun j inRest => fresh j (List.mem_cons_of_mem i inRest)) k later

theorem fresh_scope {acquire body release : List Instr} (opening : ∀ i ∈ acquire, i.Fresh)
    (inside : ∀ i ∈ body, i.Fresh) (closing : ∀ i ∈ release, i.Fresh) :
    (scope acquire body release).Fresh := by
  intro k member
  unfold walk at member
  rcases List.mem_cons.mp member with rfl | member
  · rfl
  · rcases List.mem_append.mp member with early | late
    · rcases List.mem_append.mp early with opens | within
      · exact fresh_walkAll opening k opens
      · exact fresh_walkAll inside k within
    · exact fresh_walkAll closing k late

/-- The first instruction has only new variables, and the second is like it. -/
structure Modes (i j : Instr) : Prop where
  alike : i.Alike j
  fresh : i.Fresh

abbrev ModesAll : List Instr → List Instr → Prop := List.Forall₂ Modes

variable {name name' : String}

theorem modes_same {i : Instr} (fresh : i.Fresh) : Modes i i := ⟨.refl i, fresh⟩

theorem modes_blank : Modes .blank .blank := modes_same (fresh_of_walk rfl rfl)

theorem modes_comment (text : String) : Modes (.comment text) (.comment text) :=
  modes_same (fresh_of_walk rfl rfl)

theorem modes_set {member : String} {value value' : Expr} (same : value.unnamed = value'.unnamed) :
    Modes (.set name member value) (.set name' member value') := by
  refine ⟨.renamed ?_, fresh_of_walk rfl rfl⟩
  simp only [set, unnamed, Expr.unnamed, same]

theorem modes_invokeOn {operation : String} {args args' : List Expr}
    (same : Expr.unnamedAll args = Expr.unnamedAll args') :
    Modes (.invokeOn (some (.var name)) operation args)
      (.invokeOn (some (.var name')) operation args') := by
  refine ⟨.renamed ?_, fresh_of_walk rfl rfl⟩
  simp only [invokeOn, unnamed, Expr.unnamedTarget, Expr.unnamed, same]

/-- A new variable, or one that existed. -/
theorem modes_declare (typeName : String) (typeArgs : List String) (value : Expr) (again : Bool) :
    Modes (.declare name typeName typeArgs (some value))
      (if again then .assign (.var name') none value
        else .declare name' typeName typeArgs (some value)) := by
  refine ⟨?_, fresh_of_walk rfl rfl⟩
  cases again with
  | true => exact .reused name name' typeName typeArgs rfl
  | false => exact .renamed rfl

end Instr

/-- Routines that are alike instruction by instruction. -/
structure Routine.Alike (r r' : Routine) : Prop where
  name : r.name = r'.name
  parameters : r.parameters = r'.parameters
  body : List.Forall₂ Instr.Alike r.body r'.body
  returnType : r.returnType = r'.returnType
  returns : Expr.unnamedTarget r.returns = Expr.unnamedTarget r'.returns
  isPublic : r.isPublic = r'.isPublic

structure Routine.Modes (r r' : Routine) : Prop where
  alike : r.Alike r'
  fresh : ∀ i ∈ r.walk, i.reassigns = false

theorem Routine.modes {body body' : List Instr} (code : Instr.ModesAll body body') (name : String)
    (parameters : List Parameter) (returnType : Option String) {returns returns' : Option Expr}
    (same : Expr.unnamedTarget returns = Expr.unnamedTarget returns') (isPublic : Bool) :
    Routine.Modes ⟨name, parameters, body, returnType, returns, isPublic⟩
      ⟨name, parameters, body', returnType, returns', isPublic⟩ := by
  obtain ⟨fresh, alike⟩ := (List.forall₂_and_left body body').mp
    (code.imp fun _ _ modes => ⟨modes.fresh, modes.alike⟩)
  exact ⟨⟨rfl, rfl, alike, rfl, same, rfl⟩, Instr.fresh_walkAll fresh⟩

structure Script.Alike (s s' : Script) : Prop where
  space : s.space = s'.space
  imports : s.imports = s'.imports
  className : s.className = s'.className
  routines : List.Forall₂ Routine.Alike s.routines s'.routines

end DocScript
