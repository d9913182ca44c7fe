import DocScript.Json.Basic
import DocScript.Numeral.Shortest
import DocScript.Text.Quoted

/-!
# Writing JSON text

`pretty` writes a value over several lines with an indent of two. Only quotes, backslashes and
control characters are escaped. Numbers that are not finite have no JSON form and become null.
-/

namespace DocScript.Json

open Numeral Text

def escapedChar (c : Char) : List Char :=
  if c == '"' || c == '\\' then ['\\', c]
  else if c == '\n' then ['\\', 'n']
  else if c == '\r' then ['\\', 'r']
  else if c == '\t' then ['\\', 't']
  else if c == '\x08' then ['\\', 'b']
  else if c == '\x0c' then ['\\', 'f']
  else if c.toNat < 0x20 then '\\' :: 'u' :: hexDigits 4 c.toNat
  else [c]

def stringText (s : String) : String :=
  String.ofList ('"' :: s.toList.flatMap escapedChar ++ ['"'])

def scalarText : Json → String
  | bool true => "true"
  | bool false => "false"
  | int n => intText n
  | float (.finite x) => storedStyle.text x
  | str s => stringText s
  | _ => "null"

def newLine (depth : Nat) : String := "\n" ++ String.ofList (List.replicate (2 * depth) ' ')

mutual

/-- The text of a value inside `depth` lists and objects. -/
def prettyAt (depth : Nat) : Json → String
  | arr [] => "[]"
  | arr (x :: rest) =>
    "[" ++ newLine (depth + 1) ++ prettyAt (depth + 1) x ++ prettyItems (depth + 1) rest
      ++ newLine depth ++ "]"
  | obj [] => "\x7b\x7d"
  | obj ((k, x) :: rest) =>
    "\x7b" ++ newLine (depth + 1) ++ stringText k ++ ": " ++ prettyAt (depth + 1) x
      ++ prettyMembers (depth + 1) rest ++ newLine depth ++ "\x7d"
  | j => scalarText j

def prettyItems (depth : Nat) : List Json → String
  | [] => ""
  | x :: rest => "," ++ newLine depth ++ prettyAt depth x ++ prettyItems depth rest

def prettyMembers (depth : Nat) : List (String × Json) → String
  | [] => ""
  | (k, x) :: rest =>
    "," ++ newLine depth ++ stringText k ++ ": " ++ prettyAt depth x ++ prettyMembers depth rest

end

def pretty (j : Json) : String := prettyAt 0 j

mutual

def compact : Json → String
  | arr [] => "[]"
  | arr (x :: rest) => "[" ++ compact x ++ compactItems rest ++ "]"
  | obj [] => "\x7b\x7d"
  | obj ((k, x) :: rest) =>
    "\x7b" ++ stringText k ++ ":" ++ compact x ++ compactMembers rest ++ "\x7d"
  | j => scalarText j

def compactItems : List Json → String
  | [] => ""
  | x :: rest => "," ++ compact x ++ compactItems rest

def compactMembers : List (String × Json) → String
  | [] => ""
  | (k, x) :: rest => "," ++ stringText k ++ ":" ++ compact x ++ compactMembers rest

end

end DocScript.Json
