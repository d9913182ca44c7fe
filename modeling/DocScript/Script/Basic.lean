import DocScript.Numeral.Decimal

/-!
# Scripts

A script rebuilds a document. It is a class of routines, and a routine is a sequence of
instructions whose order is the order in which the document is rebuilt.
-/

namespace DocScript

open Numeral

inductive Literal where
  | null
  | bool (b : Bool)
  | int (n : Int)
  | float (x : Binary64)
  | decimal (d : Decimal)
  | str (s : String)
  deriving DecidableEq, Repr

/-- An expression. A call without a target calls a routine of the script itself. -/
inductive Expr where
  | primitive (value : Literal)
  | var (name : String)
  | type (name : String)
  | constant (owner member : String)
  | byRef (name : String)
  | construct (typeName : String) (typeArgs : List String) (args : List Expr)
  | call (target : Option Expr) (operation : String) (typeArgs : List String) (args : List Expr)
  deriving Repr

instance : Inhabited Expr := ⟨.primitive .null⟩

structure Call where
  target : Option Expr
  operation : String
  typeArgs : List String
  args : List Expr
  deriving Repr

/-- An instruction. The release of a scope runs on every way out of its body. An assignment
without a member gives a variable a new value. -/
inductive Instr where
  | declare (name typeName : String) (typeArgs : List String) (value : Option Expr)
  | assign (target : Expr) (member : Option String) (value : Expr)
  | invoke (call : Call)
  | comment (text : String)
  | blank
  | scope (acquire body release : List Instr)
  deriving Repr

instance : Inhabited Instr := ⟨.blank⟩

structure Parameter where
  name : String
  typeName : String
  byRef : Bool
  deriving DecidableEq, Repr

structure Routine where
  name : String
  parameters : List Parameter
  body : List Instr
  returnType : Option String
  returns : Option Expr
  isPublic : Bool
  deriving Repr

/-- A namespace that a script uses, with its alias if that is not empty. -/
structure Import where
  space : String
  aliasName : String
  deriving DecidableEq, Repr

/-- A script. Its first routine is the one to call. -/
structure Script where
  space : String
  imports : List Import
  className : String
  routines : List Routine
  deriving Repr

namespace Expr

def text (s : String) : Expr := primitive (.str s)

def truth (b : Bool) : Expr := primitive (.bool b)

end Expr

/-- A call of an operation of some target, for its effects. -/
def Instr.invokeOn (target : Option Expr) (operation : String) (args : List Expr) : Instr :=
  invoke ⟨target, operation, [], args⟩

def Instr.set (name member : String) (value : Expr) : Instr :=
  assign (.var name) (some member) value

namespace Instr

mutual

/-- An instruction and those inside it: of a scope the acquisition, the body and the release. -/
def walk : Instr → List Instr
  | scope acquire body release =>
    scope acquire body release :: (walkAll acquire ++ walkAll body ++ walkAll release)
  | i => [i]

def walkAll : List Instr → List Instr
  | [] => []
  | i :: rest => walk i ++ walkAll rest

end

def kind : Instr → String
  | declare .. => "declare"
  | assign .. => "assign"
  | invoke .. => "invoke"
  | comment .. => "comment"
  | blank => "blank"
  | scope .. => "scoped"

end Instr

def Routine.walk (r : Routine) : List Instr := Instr.walkAll r.body

def Script.instructionCount (s : Script) : Nat :=
  (s.routines.map (·.walk.length)).foldl (· + ·) 0

def Script.routine? (s : Script) (name : String) : Option Routine :=
  s.routines.find? (·.name = name)

end DocScript
