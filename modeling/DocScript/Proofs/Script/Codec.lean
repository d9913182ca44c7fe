import DocScript.Proofs.Json.Check
import DocScript.Script.Codec

/-!
# Scripts that are written and read

What is written of a script is read back but for some of its literals: a decimal comes back as a
string, and a number that is not finite as null. So a script comes back as it was if and only if it
has none of these.
-/

namespace DocScript

open Json Numeral

/-- What is read of a literal that was written. -/
def Literal.stored : Literal → Literal
  | float (.finite x) => float (.finite x)
  | float _ => null
  | decimal d => str d.text
  | l => l

theorem Literal.ofJson_toJson (l : Literal) : Literal.ofJson l.toJson = .valid l.stored := by
  cases l with
  | float x => cases x <;> rfl
  | _ => rfl

/-- The literals that are read back as they were. -/
theorem Literal.stored_eq_self {l : Literal} :
    l.stored = l ↔ (∀ d, l ≠ decimal d) ∧ ∀ x, l = float x → ∃ y, x = .finite y := by
  cases l with
  | float x => cases x <;> simp [stored]
  | _ => simp [stored]

namespace Expr

mutual

/-- What is read of an expression that was written. -/
def stored : Expr → Expr
  | primitive value => primitive value.stored
  | construct typeName typeArgs args => construct typeName typeArgs (storedAll args)
  | call target operation typeArgs args =>
    call (storedTarget target) operation typeArgs (storedAll args)
  | var name => var name
  | type name => type name
  | constant owner member => constant owner member
  | byRef name => byRef name

def storedTarget : Option Expr → Option Expr
  | none => none
  | some e => some (stored e)

def storedAll : List Expr → List Expr
  | [] => []
  | e :: rest => stored e :: storedAll rest

end

mutual

/-- The literals of an expression. -/
def literals : Expr → List Literal
  | primitive value => [value]
  | construct _ _ args => literalsAll args
  | call target _ _ args => literalsTarget target ++ literalsAll args
  | var _ | type _ | constant _ _ | byRef _ => []

def literalsTarget : Option Expr → List Literal
  | none => []
  | some e => literals e

def literalsAll : List Expr → List Literal
  | [] => []
  | e :: rest => literals e ++ literalsAll rest

end

theorem toJsonAll_eq (es : List Expr) : toJsonAll es = es.map toJson := by
  induction es with
  | nil => rw [toJsonAll, List.map_nil]
  | cons e rest ih => rw [toJsonAll, ih, List.map_cons]

theorem storedAll_eq (es : List Expr) : storedAll es = es.map stored := by
  induction es with
  | nil => rfl
  | cons e rest ih => rw [storedAll, ih, List.map_cons]

theorem storedTarget_eq (target : Option Expr) : storedTarget target = target.map stored := by
  cases target <;> rfl

/-- The members of a call as JSON. -/
def callJson (target : Option Expr) (operation : String) (typeArgs : List String)
    (args : List Expr) : Json :=
  .obj [("kind", .str "call"), ("target", .ofOption toJson target), ("operation", .str operation),
    ("type_args", .ofStrings typeArgs), ("args", .arr (args.map toJson))]

theorem toJson_call (target : Option Expr) (operation : String) (typeArgs : List String)
    (args : List Expr) :
    (call target operation typeArgs args).toJson = callJson target operation typeArgs args := by
  cases target <;> rw [toJson, toJsonAll_eq] <;> rfl

theorem toJson_construct (typeName : String) (typeArgs : List String) (args : List Expr) :
    (construct typeName typeArgs args).toJson =
      .obj [("kind", .str "construct"), ("type_name", .str typeName),
        ("type_args", .ofStrings typeArgs), ("args", .arr (args.map toJson))] := by
  rw [toJson, toJsonAll_eq]

theorem toJson_ne_null (e : Expr) : e.toJson ≠ .null := by
  cases e with
  | call target operation typeArgs args =>
    rw [toJson_call]
    exact nofun
  | _ =>
    rw [toJson]
    exact nofun

theorem ofStrings_valid (names : List String) :
    asList asString (ofStrings names) = .valid names := asList_self fun _ _ => rfl

section Call

variable {target : Option Expr} {operation : String} {typeArgs : List String} {args : List Expr}
  {expr : (v : Json) → sizeOf v < sizeOf (callJson target operation typeArgs args) → Checked Expr}

theorem callMembers_valid (ofTarget : ∀ e ∈ target, ∀ h, expr e.toJson h = .valid e.stored)
    (ofArgs : ∀ e ∈ args, ∀ h, expr e.toJson h = .valid e.stored) :
    callMembers (callJson target operation typeArgs args) expr =
      .valid ⟨target.map stored, operation, typeArgs, args.map stored⟩ := by
  have kind : (callJson target operation typeArgs args).literalKind "call" = .valid () :=
    withDefault_valid rfl fun _ => if_pos rfl
  unfold callMembers
  rw [kind, withDefault_valid (a := target.map stored) rfl ?_,
    required_valid (a := operation) rfl fun _ => rfl,
    withDefault_valid rfl fun _ => ofStrings_valid typeArgs,
    withDefault_valid rfl fun _ => sequence_valid fun e member _ => ofArgs e member _]
  · rfl
  · intro h
    cases target with
    | none => rfl
    | some e =>
      split
      · next nothing _ => exact (e.toJson_ne_null nothing).elim
      · rw [Option.map_some, Checked.map_eq_valid]
        exact ⟨e.stored, ofTarget e rfl h, rfl⟩

end Call

theorem ofJson_toJson : ∀ e : Expr, ofJson e.toJson = .valid e.stored
  | primitive value => by
    rw [toJson, ofJson]
    refine tagged_valid rfl ?_
    rw [withDefault_valid rfl fun _ => Literal.ofJson_toJson value]
    rfl
  | var name => by
    rw [toJson, ofJson]
    refine tagged_valid rfl ?_
    rw [required_valid rfl fun _ => rfl]
    rfl
  | type name => by
    rw [toJson, ofJson]
    refine tagged_valid rfl ?_
    simp only [String.reduceEq, reduceIte]
    rw [required_valid rfl fun _ => rfl]
    rfl
  | constant owner member => by
    rw [toJson, ofJson]
    refine tagged_valid rfl ?_
    simp only [String.reduceEq, reduceIte]
    rw [required_valid rfl fun _ => rfl, required_valid rfl fun _ => rfl]
    rfl
  | byRef name => by
    rw [toJson, ofJson]
    refine tagged_valid rfl ?_
    simp only [String.reduceEq, reduceIte]
    rw [required_valid rfl fun _ => rfl]
    rfl
  | construct typeName typeArgs args => by
    have each : ∀ e ∈ args, ofJson e.toJson = .valid e.stored := fun e _ => ofJson_toJson e
    rw [toJson_construct, ofJson]
    refine tagged_valid rfl ?_
    simp only [String.reduceEq, reduceIte]
    rw [required_valid rfl fun _ => rfl, withDefault_valid rfl fun _ => ofStrings_valid typeArgs,
      withDefault_valid rfl fun _ => sequence_valid fun e member _ => each e member, stored,
      storedAll_eq]
    rfl
  | call target operation typeArgs args => by
    have each : ∀ e ∈ args, ofJson e.toJson = .valid e.stored := fun e _ => ofJson_toJson e
    have one : ∀ e ∈ target, ofJson e.toJson = .valid e.stored := fun e _ => ofJson_toJson e
    rw [toJson_call, ofJson]
    refine tagged_valid rfl ?_
    simp only [String.reduceEq, reduceIte]
    rw [callMembers_valid (fun e member _ => one e member) fun e member _ => each e member, stored,
      storedAll_eq, storedTarget_eq]
    rfl

mutual

/-- An expression is read back as it was if and only if its literals are. -/
theorem stored_eq_self : ∀ e : Expr, e.stored = e ↔ ∀ l ∈ e.literals, l.stored = l
  | primitive value => by simp [stored, literals]
  | construct typeName typeArgs args => by
    rw [stored, literals, ← storedAll_eq_self args]
    exact ⟨fun h => (construct.inj h).2.2, congrArg _⟩
  | call target operation typeArgs args => by
    rw [stored, literals, List.forall_mem_append, ← storedTarget_eq_self target,
      ← storedAll_eq_self args]
    constructor
    · intro h
      obtain ⟨first, _, _, others⟩ := call.inj h
      exact ⟨first, others⟩
    · rintro ⟨first, others⟩
      rw [first, others]
  | var name | type name | constant owner member | byRef name => ⟨fun _ => nofun, fun _ => rfl⟩

theorem storedTarget_eq_self : ∀ target : Option Expr,
    storedTarget target = target ↔ ∀ l ∈ literalsTarget target, l.stored = l
  | none => ⟨fun _ => nofun, fun _ => rfl⟩
  | some e => by
    rw [storedTarget, literalsTarget, ← stored_eq_self e]
    exact ⟨Option.some.inj, congrArg _⟩

theorem storedAll_eq_self : ∀ es : List Expr,
    storedAll es = es ↔ ∀ l ∈ literalsAll es, l.stored = l
  | [] => ⟨fun _ => nofun, fun _ => rfl⟩
  | e :: rest => by
    rw [storedAll, literalsAll, List.forall_mem_append, ← stored_eq_self e,
      ← storedAll_eq_self rest, List.cons_eq_cons]

end

end Expr

/-- What is read of a call that was written. -/
def Call.stored (c : Call) : Call :=
  ⟨Expr.storedTarget c.target, c.operation, c.typeArgs, Expr.storedAll c.args⟩

def Call.literals (c : Call) : List Literal :=
  Expr.literalsTarget c.target ++ Expr.literalsAll c.args

theorem Call.ofJson_toJson (c : Call) : Call.ofJson c.toJson = .valid c.stored := by
  rw [toJson, Expr.toJson_call, ofJson, model_eq_valid, stored, Expr.storedTarget_eq,
    Expr.storedAll_eq]
  refine ⟨⟨_, rfl⟩, Expr.callMembers_valid ?_ ?_⟩ <;> exact fun e _ _ => e.ofJson_toJson

theorem Call.stored_eq_self (c : Call) : c.stored = c ↔ ∀ l ∈ c.literals, l.stored = l := by
  obtain ⟨target, operation, typeArgs, args⟩ := c
  rw [stored, literals, List.forall_mem_append, ← Expr.storedTarget_eq_self,
    ← Expr.storedAll_eq_self, Call.mk.injEq]
  tauto

namespace Instr

mutual

/-- What is read of an instruction that was written. -/
def stored : Instr → Instr
  | declare name typeName typeArgs value =>
    declare name typeName typeArgs (Expr.storedTarget value)
  | assign target member value => assign target.stored member value.stored
  | invoke call => invoke call.stored
  | scope acquire body release => scope (storedAll acquire) (storedAll body) (storedAll release)
  | comment text => comment text
  | blank => blank

def storedAll : List Instr → List Instr
  | [] => []
  | i :: rest => stored i :: storedAll rest

end

mutual

/-- The literals of an instruction, with those inside a scope. -/
def literals : Instr → List Literal
  | declare _ _ _ value => Expr.literalsTarget value
  | assign target _ value => target.literals ++ value.literals
  | invoke call => call.literals
  | scope acquire body release => literalsAll acquire ++ literalsAll body ++ literalsAll release
  | comment _ | blank => []

def literalsAll : List Instr → List Literal
  | [] => []
  | i :: rest => literals i ++ literalsAll rest

end

theorem toJsonAll_eq (is : List Instr) : toJsonAll is = is.map toJson := by
  induction is with
  | nil => rfl
  | cons i rest ih => rw [toJsonAll, ih, List.map_cons]

theorem storedAll_eq (is : List Instr) : storedAll is = is.map stored := by
  induction is with
  | nil => rfl
  | cons i rest ih => rw [storedAll, ih, List.map_cons]

theorem ofJson_toJson : ∀ i : Instr, ofJson i.toJson = .valid i.stored
  | declare name typeName typeArgs value => by
    rw [toJson, ofJson]
    refine tagged_valid rfl ?_
    rw [required_valid rfl fun _ => rfl, required_valid rfl fun _ => rfl,
      withDefault_valid rfl fun _ => Expr.ofStrings_valid typeArgs,
      withDefault_valid rfl fun _ => asOption_valid Expr.toJson_ne_null fun e _ => e.ofJson_toJson,
      stored, Expr.storedTarget_eq]
    rfl
  | assign target member value => by
    rw [toJson, ofJson]
    refine tagged_valid rfl ?_
    simp only [String.reduceEq, reduceIte]
    rw [required_valid rfl fun _ => target.ofJson_toJson,
      withDefault_valid rfl fun _ => asOption_string _,
      required_valid rfl fun _ => value.ofJson_toJson]
    rfl
  | invoke call => by
    rw [toJson, ofJson]
    refine tagged_valid rfl ?_
    simp only [String.reduceEq, reduceIte]
    rw [required_valid rfl fun _ => call.ofJson_toJson]
    rfl
  | comment text => by
    rw [toJson, ofJson]
    refine tagged_valid rfl ?_
    simp only [String.reduceEq, reduceIte]
    rw [required_valid rfl fun _ => rfl]
    rfl
  | blank => by
    rw [toJson, ofJson]
    exact tagged_valid rfl rfl
  | scope acquire body release => by
    have first : ∀ i ∈ acquire, ofJson i.toJson = .valid i.stored := fun i _ => ofJson_toJson i
    have second : ∀ i ∈ body, ofJson i.toJson = .valid i.stored := fun i _ => ofJson_toJson i
    have third : ∀ i ∈ release, ofJson i.toJson = .valid i.stored := fun i _ => ofJson_toJson i
    rw [toJson, toJsonAll_eq, toJsonAll_eq, toJsonAll_eq, ofJson]
    refine tagged_valid rfl ?_
    simp only [String.reduceEq, reduceIte]
    rw [withDefault_valid rfl fun _ => sequence_valid fun i member _ => first i member,
      withDefault_valid rfl fun _ => sequence_valid fun i member _ => second i member,
      withDefault_valid rfl fun _ => sequence_valid fun i member _ => third i member, stored,
      storedAll_eq, storedAll_eq, storedAll_eq]
    rfl

mutual

theorem stored_eq_self : ∀ i : Instr, i.stored = i ↔ ∀ l ∈ i.literals, l.stored = l
  | declare name typeName typeArgs value => by
    rw [stored, literals, ← Expr.storedTarget_eq_self]
    exact ⟨fun h => (declare.inj h).2.2.2, congrArg _⟩
  | assign target member value => by
    rw [stored, literals, List.forall_mem_append, ← target.stored_eq_self, ← value.stored_eq_self,
      assign.injEq]
    tauto
  | invoke call => by
    rw [stored, literals, ← call.stored_eq_self]
    exact ⟨invoke.inj, congrArg _⟩
  | scope acquire body release => by
    rw [stored, literals, List.forall_mem_append, List.forall_mem_append,
      ← storedAll_eq_self acquire, ← storedAll_eq_self body, ← storedAll_eq_self release,
      scope.injEq, and_assoc]
  | comment text | blank => ⟨fun _ => nofun, fun _ => rfl⟩

theorem storedAll_eq_self : ∀ is : List Instr,
    storedAll is = is ↔ ∀ l ∈ literalsAll is, l.stored = l
  | [] => ⟨fun _ => nofun, fun _ => rfl⟩
  | i :: rest => by
    rw [storedAll, literalsAll, List.forall_mem_append, ← stored_eq_self i,
      ← storedAll_eq_self rest, List.cons_eq_cons]

end

end Instr

theorem Parameter.ofJson_toJson (p : Parameter) : Parameter.ofJson p.toJson = .valid p := by
  rw [toJson, ofJson, model_eq_valid, required_valid rfl fun _ => rfl,
    required_valid rfl fun _ => rfl, withDefault_valid rfl fun _ => rfl]
  exact ⟨⟨_, rfl⟩, rfl⟩

theorem Import.ofJson_toJson (i : Import) : Import.ofJson i.toJson = .valid i := by
  rw [toJson, ofJson, model_eq_valid, required_valid rfl fun _ => rfl,
    withDefault_valid rfl fun _ => rfl]
  exact ⟨⟨_, rfl⟩, rfl⟩

/-- What is read of a routine that was written. -/
def Routine.stored (r : Routine) : Routine :=
  { r with body := Instr.storedAll r.body, returns := Expr.storedTarget r.returns }

def Routine.literals (r : Routine) : List Literal :=
  Instr.literalsAll r.body ++ Expr.literalsTarget r.returns

theorem Routine.ofJson_toJson (r : Routine) : Routine.ofJson r.toJson = .valid r.stored := by
  rw [toJson, ofJson, model_eq_valid, Instr.toJsonAll_eq, required_valid rfl fun _ => rfl,
    withDefault_valid rfl fun _ => asList_self fun p _ => p.ofJson_toJson,
    withDefault_valid rfl fun _ => asList_valid fun i _ => i.ofJson_toJson,
    withDefault_valid rfl fun _ => asOption_string _,
    withDefault_valid rfl fun _ => asOption_valid Expr.toJson_ne_null fun e _ => e.ofJson_toJson,
    withDefault_valid rfl fun _ => rfl, stored, Instr.storedAll_eq, Expr.storedTarget_eq]
  exact ⟨⟨_, rfl⟩, rfl⟩

theorem Routine.stored_eq_self (r : Routine) : r.stored = r ↔ ∀ l ∈ r.literals, l.stored = l := by
  obtain ⟨name, parameters, body, returnType, returns, isPublic⟩ := r
  rw [stored, literals, List.forall_mem_append, ← Instr.storedAll_eq_self,
    ← Expr.storedTarget_eq_self, Routine.mk.injEq]
  tauto

/-- What is read of a script that was written. -/
def Script.stored (s : Script) : Script := { s with routines := s.routines.map (·.stored) }

def Script.literals (s : Script) : List Literal := s.routines.flatMap (·.literals)

/-- What is written of a script is read back with the literals that can be stored. -/
theorem Script.ofJson_toJson (s : Script) : Script.ofJson s.toJson = .valid s.stored := by
  rw [toJson, ofJson, model_eq_valid, required_valid rfl fun _ => rfl,
    withDefault_valid rfl fun _ => asList_self fun i _ => i.ofJson_toJson,
    required_valid rfl fun _ => rfl,
    withDefault_valid rfl fun _ => asList_valid fun r _ => r.ofJson_toJson]
  exact ⟨⟨_, rfl⟩, rfl⟩

theorem Script.stored_eq_self (s : Script) : s.stored = s ↔ ∀ l ∈ s.literals, l.stored = l := by
  obtain ⟨space, imports, className, routines⟩ := s
  have same : routines.map Routine.stored = routines.map id ↔ ∀ r ∈ routines, r.stored = r :=
    List.map_inj_left
  rw [List.map_id] at same
  simp only [stored, literals, List.forall_mem_flatMap, ← Routine.stored_eq_self, Script.mk.injEq,
    true_and, same]

end DocScript
