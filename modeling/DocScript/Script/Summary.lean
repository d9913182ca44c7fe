import DocScript.Console.Table
import DocScript.Script.Basic

/-!
# Summaries of scripts

A summary lists the routines and the imports of a script. It ends with the comments, which mark
values that the script does not rebuild.
-/

namespace DocScript

open Console Numeral

def Parameter.summary (p : Parameter) : String :=
  (if p.byRef then "ref " else "") ++ p.typeName ++ " " ++ p.name

def Routine.row (r : Routine) : List String :=
  [r.name, ", ".intercalate (r.parameters.map Parameter.summary), Nat.repr r.walk.length,
    if r.isPublic then "public" else "private"]

def Routine.comments (r : Routine) : List String :=
  r.walk.filterMap fun
    | .comment text => some text
    | _ => none

def warning (text : String) : String := Console.line ("⚠ " ++ text)

def Script.heading (s : Script) : String :=
  "\n" ++ line (s.space ++ "." ++ s.className)
    ++ line (Nat.repr s.instructionCount ++ " instructions") ++ "\n"

def Script.routineTable? (s : Script) : Option String :=
  table? rounded
    [⟨"Routine", .left, false⟩, ⟨"Parameters", .left, true⟩, ⟨"Instructions", .right, true⟩,
      ⟨"Visibility", .left, true⟩]
    (s.routines.map Routine.row)

/-- The table of imports, which is left out if there are none. -/
def Script.importTable? (s : Script) : Option String :=
  if s.imports.isEmpty then some ""
  else table? simple [⟨"Namespace", .left, true⟩, ⟨"Alias", .left, true⟩]
    (s.imports.map fun i => [i.space, i.aliasName])

def Script.warnings (s : Script) : String :=
  String.join (s.routines.flatMap fun r =>
    r.comments.map fun text => warning (r.name ++ ": " ++ text))

/-- The summary of a script. The error is the part before a table that cannot be shown. -/
def Script.summary (s : Script) : Except String String :=
  match s.routineTable? with
  | none => .error s.heading
  | some routines =>
    match s.importTable? with
    | none => .error (s.heading ++ routines)
    | some imports => .ok (s.heading ++ routines ++ imports ++ s.warnings ++ "\n")

end DocScript
