import DocScript.Text.Blank
import DocScript.Text.CaseMap
import DocScript.Text.Digit

/-!
# Spelling of identifiers

The transformations from which names of variables, aliases and routines are made. Each works on
single characters, so that a capital sigma inside a name has no context.
-/

namespace DocScript.Text

/-- The first character in lower case; a blank text is left alone. -/
def camelCase (s : String) : String :=
  match s.toList with
  | [] => s
  | c :: rest => if (c :: rest).all isBlank then s else String.ofList (lowerChar c ++ rest)

def pascalCase (s : String) : String :=
  match s.toList with
  | [] => s
  | c :: rest => String.ofList (upperChar c ++ rest)

/-- The first character in upper case and all others in lower case. -/
def titleCase (s : String) : String :=
  match s.toList with
  | [] => s
  | c :: rest =>
    let head := if isUpper c then [c] else upperChar c
    let tail := rest.flatMap fun d => if isBlank d || isLower d then [d] else lowerChar d
    String.ofList (head ++ tail)

def upperCaseChars (s : String) : String := String.ofList (s.toList.filter isUpper)

/-- The upper-case characters and digits, in order. -/
def upperCaseAndDigitChars (s : String) : String :=
  String.ofList (s.toList.filter fun c => isUpper c || isDigit c)

def wordChars (s : String) : String := String.ofList (s.toList.filter isWord)

end DocScript.Text
