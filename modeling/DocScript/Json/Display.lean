import DocScript.Json.Basic
import DocScript.Numeral.Shortest
import DocScript.Text.Quoted

/-!
# Values inside a text or message

A text shows as itself. Inside a list or an object texts are quoted; the words for truth values
and for nothing start with a capital.
-/

namespace DocScript.Json

open Numeral Text

mutual

def literal : Json → String
  | null => "None"
  | bool true => "True"
  | bool false => "False"
  | int n => intText n
  | float x => x.display
  | str s => quoted s
  | arr items => "[" ++ literalItems items ++ "]"
  | obj members => "\x7b" ++ literalMembers members ++ "\x7d"

def literalItems : List Json → String
  | [] => ""
  | [x] => literal x
  | x :: rest => literal x ++ ", " ++ literalItems rest

def literalMembers : List (String × Json) → String
  | [] => ""
  | [(k, x)] => quoted k ++ ": " ++ literal x
  | (k, x) :: rest => quoted k ++ ": " ++ literal x ++ ", " ++ literalMembers rest

end

def display : Json → String
  | str s => s
  | j => literal j

end DocScript.Json
