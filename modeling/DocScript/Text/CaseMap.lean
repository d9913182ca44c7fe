import DocScript.Text.CaseTable
import DocScript.Text.Cased

/-!
# Upper and lower case

`upperChar` and `lowerChar` map one character, `upper` and `lower` a text. The mapping of a
character may have several characters. Only the capital sigma looks at its neighbours: at the
end of a word it becomes the final sigma.
-/

namespace DocScript.Text

/-- The mapping of a character by a table of shifts and one of special cases. -/
def mapCase (shifts : List CaseShift) (specials : List (Nat × List Nat)) (c : Char) : List Char :=
  match specials.lookup c.toNat with
  | some codes => codes.map Char.ofNat
  | none =>
    match shifts.find? (·.run.contains c.toNat) with
    | some s => [Char.ofNat (c.toNat + s.shift).toNat]
    | none => [c]

def upperChar (c : Char) : List Char := mapCase upperShifts upperSpecials c

/-- The lower-case form of a character on its own. -/
def lowerChar (c : Char) : List Char := mapCase lowerShifts lowerSpecials c

def upper (s : String) : String := String.ofList (s.toList.flatMap upperChar)

/-- The next character that is not case-ignorable is cased. -/
def casedAhead (cs : List Char) : Bool :=
  match cs.dropWhile isCaseIgnorable with
  | [] => false
  | c :: _ => isCased c

def capitalSigma : Char := 'Σ'

/-- The lower-case form of characters that follow `before`, which is in reverse order. -/
def lowerFrom (before : List Char) : List Char → List Char
  | [] => []
  | c :: rest =>
    let mapped :=
      if c == capitalSigma && casedAhead before && !casedAhead rest then ['ς'] else lowerChar c
    mapped ++ lowerFrom (c :: before) rest

def lower (s : String) : String := String.ofList (lowerFrom [] s.toList)

end DocScript.Text
