import DocScript.Script.Basic

/-!
# Parts in scripts

What a routine says about the graph that it rebuilds: each part that it hangs below a container, in
a new variable or in a known one, and under which relationship.
-/

namespace DocScript

/-- A part that is hung below a container: the variables of both, and the identifier of the
relationship if there is one. The flag says that the part is created there. -/
structure Link where
  creates : Bool
  parent : String
  part : String
  id : Option String
  deriving DecidableEq

namespace Instr

/-- The identifier that an instruction gives to a part below a container. -/
def relabels? (parent part : String) : Instr → Option String
  | .invoke ⟨some (.var owner), "ChangeIdOfPart", _, [.var name, .primitive (.str id)]⟩ =>
    if owner = parent ∧ name = part then some id else none
  | _ => none

def lastText? (args : List Expr) : Option String :=
  match args.getLast? with
  | some (.primitive (.str s)) => some s
  | _ => none

/-- The link that an instruction makes. A part is created by a call on its container; the identifier
is set by the next instruction or else given at the end of the call. -/
def link? (next : Option Instr) : Instr → Option Link
  | .declare part _ _ (some (.call (some (.var parent)) _ _ args)) =>
    some ⟨true, parent, part, (next.bind (relabels? parent part)).or (lastText? args)⟩
  | .invoke ⟨some (.var parent), "AddPart", _, [.var part, .primitive (.str id)]⟩ =>
    some ⟨false, parent, part, some id⟩
  | _ => none

/-- The links that some instructions make, in order. -/
def linksIn : List Instr → List Link
  | [] => []
  | i :: rest => (link? rest.head? i).toList ++ linksIn rest

theorem linksIn_cons (i : Instr) (rest : List Instr) :
    linksIn (i :: rest) = (link? rest.head? i).toList ++ linksIn rest := rfl

/-- Instructions that make no link, whatever follows them, can be left out. -/
theorem linksIn_append {is : List Instr} (silent : ∀ i ∈ is, ∀ next, link? next i = none)
    (rest : List Instr) : linksIn (is ++ rest) = linksIn rest := by
  induction is with
  | nil => rfl
  | cons i more ih =>
    rw [List.cons_append, linksIn_cons, silent i List.mem_cons_self,
      ih fun j member => silent j (List.mem_cons_of_mem _ member)]
    rfl

theorem lastText?_append (args : List Expr) (s : String) :
    lastText? (args ++ [.text s]) = some s := by
  simp [lastText?, Expr.text]

end Instr

end DocScript
