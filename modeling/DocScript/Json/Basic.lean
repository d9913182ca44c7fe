import DocScript.Numeral.Binary64
import DocScript.OrderedMap

/-!
# JSON values

Integers of any size are kept apart from numbers with a point or an exponent, and members stay in
their order. An object may have several members of one name, of which the last one counts;
`distinct` leaves only that one, at the place of the first.
-/

namespace DocScript

open Numeral

inductive Json where
  | null
  | bool (b : Bool)
  | int (n : Int)
  | float (x : Binary64)
  | str (s : String)
  | arr (items : List Json)
  | obj (members : List (String × Json))
  deriving Repr

namespace Json

instance : Inhabited Json := ⟨null⟩

mutual

def decEq : (a b : Json) → Decidable (a = b)
  | null, null => isTrue rfl
  | bool a, bool b => if h : a = b then isTrue (h ▸ rfl) else isFalse fun e => h (bool.inj e)
  | int a, int b => if h : a = b then isTrue (h ▸ rfl) else isFalse fun e => h (int.inj e)
  | float a, float b => if h : a = b then isTrue (h ▸ rfl) else isFalse fun e => h (float.inj e)
  | str a, str b => if h : a = b then isTrue (h ▸ rfl) else isFalse fun e => h (str.inj e)
  | arr a, arr b =>
    match decEqItems a b with
    | isTrue h => isTrue (h ▸ rfl)
    | isFalse h => isFalse fun e => h (arr.inj e)
  | obj a, obj b =>
    match decEqMembers a b with
    | isTrue h => isTrue (h ▸ rfl)
    | isFalse h => isFalse fun e => h (obj.inj e)
  | null, bool _ | null, int _ | null, float _ | null, str _ | null, arr _ | null, obj _
  | bool _, null | bool _, int _ | bool _, float _ | bool _, str _ | bool _, arr _ | bool _, obj _
  | int _, null | int _, bool _ | int _, float _ | int _, str _ | int _, arr _ | int _, obj _
  | float _, null | float _, bool _ | float _, int _ | float _, str _ | float _, arr _
  | float _, obj _ | str _, null | str _, bool _ | str _, int _ | str _, float _ | str _, arr _
  | str _, obj _ | arr _, null | arr _, bool _ | arr _, int _ | arr _, float _ | arr _, str _
  | arr _, obj _ | obj _, null | obj _, bool _ | obj _, int _ | obj _, float _ | obj _, str _
  | obj _, arr _ => isFalse (by intro h; cases h)

def decEqItems : (a b : List Json) → Decidable (a = b)
  | [], [] => isTrue rfl
  | [], _ :: _ => isFalse (by intro h; cases h)
  | _ :: _, [] => isFalse (by intro h; cases h)
  | x :: xs, y :: ys =>
    match decEq x y with
    | isFalse h => isFalse fun e => h (List.cons.inj e).1
    | isTrue h =>
      match decEqItems xs ys with
      | isFalse h' => isFalse fun e => h' (List.cons.inj e).2
      | isTrue h' => isTrue (h ▸ h' ▸ rfl)

def decEqMembers : (a b : List (String × Json)) → Decidable (a = b)
  | [], [] => isTrue rfl
  | [], _ :: _ => isFalse (by intro h; cases h)
  | _ :: _, [] => isFalse (by intro h; cases h)
  | (k, x) :: xs, (l, y) :: ys =>
    if hk : k = l then
      match decEq x y with
      | isFalse h => isFalse fun e => h (Prod.mk.inj (List.cons.inj e).1).2
      | isTrue h =>
        match decEqMembers xs ys with
        | isFalse h' => isFalse fun e => h' (List.cons.inj e).2
        | isTrue h' => isTrue (hk ▸ h ▸ h' ▸ rfl)
    else isFalse fun e => hk (Prod.mk.inj (List.cons.inj e).1).1

end

instance : DecidableEq Json := decEq

/-- The member of a name, if the value is an object that has one. -/
def member? (j : Json) (name : String) : Option Json :=
  match j with
  | obj members => lookupEntry name members.reverse
  | _ => none

theorem sizeOf_member_lt {j v : Json} {name : String} (h : j.member? name = some v) :
    sizeOf v < sizeOf j := by
  cases j with
  | obj members =>
    have hm := List.sizeOf_lt_of_mem (List.mem_reverse.1 (lookupEntry_mem h))
    simp only [obj.sizeOf_spec, Prod.mk.sizeOf_spec] at hm ⊢
    omega
  | _ => cases h

mutual

/-- The value with one member of each name in every object. -/
def distinct : Json → Json
  | arr items => arr (distinctItems items)
  | obj members => obj (distinctMembers [] members)
  | j => j

/-- Items with one member of each name in every object. -/
def distinctItems : List Json → List Json
  | [] => []
  | x :: rest => x.distinct :: distinctItems rest

def distinctMembers (done : List (String × Json)) : List (String × Json) → List (String × Json)
  | [] => done
  | (k, x) :: rest => distinctMembers (insertEntry k x.distinct done) rest

end

end Json

end DocScript
