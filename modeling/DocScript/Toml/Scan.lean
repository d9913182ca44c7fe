import DocScript.Toml.Value

/-!
# Reading with a place for every fault

A scan reads from the front of a text and either gives a value and the rest or stops with a cause.
Where it stopped is kept as the number of characters that were left, from which `Place.of` finds
line and column.
-/

namespace DocScript.Toml

open Text

/-- A sequence of keys from the root of a document down. -/
abbrev Path := List String

inductive Cause where
  | statement
  | lineEnd
  | keyStart
  | equalsSign
  | tableEnd
  | tableListEnd
  | declaredTwice (path : Path)
  | closed (path : Path)
  | redefined (path : Path)
  | overwritten
  | duplicateKey (key : String)
  | listEnd
  | inlineTableEnd
  | stringEnd
  | missing (mark : String)
  | controlChar (c : Char)
  | charInString (c : Char)
  | escape
  | hexDigits
  | notScalar
  | calendar
  | value
  /-- An integer is too long to be read. -/
  | tooManyDigits (count : Nat)
  deriving DecidableEq, Repr

def pathText : Path → String
  | [] => "()"
  | [k] => "(" ++ quoted k ++ ",)"
  | ks => "(" ++ ", ".intercalate (ks.map quoted) ++ ")"

def Cause.text : Cause → String
  | statement => "Invalid statement"
  | lineEnd => "Expected newline or end of document after a statement"
  | keyStart => "Invalid initial character for a key part"
  | equalsSign => "Expected '=' after a key in a key/value pair"
  | tableEnd => "Expected ']' at the end of a table declaration"
  | tableListEnd => "Expected ']]' at the end of an array declaration"
  | declaredTwice path => "Cannot declare " ++ pathText path ++ " twice"
  | closed path => "Cannot mutate immutable namespace " ++ pathText path
  | redefined path => "Cannot redefine namespace " ++ pathText path
  | overwritten => "Cannot overwrite a value"
  | duplicateKey key => "Duplicate inline table key " ++ quoted key
  | listEnd => "Unclosed array"
  | inlineTableEnd => "Unclosed inline table"
  | stringEnd => "Unterminated string"
  | missing mark => "Expected " ++ quoted mark
  | controlChar c => "Found invalid character " ++ quoted (String.singleton c)
  | charInString c => "Illegal character " ++ quoted (String.singleton c)
  | escape => "Unescaped '\\' in a string"
  | hexDigits => "Invalid hex value"
  | notScalar => "Escaped character is not a Unicode scalar value"
  | calendar => "Invalid date or datetime"
  | value => "Invalid value"
  | tooManyDigits count =>
    "Exceeds the limit (" ++ Nat.repr Numeral.maxDigits
      ++ " digits) for integer string conversion: value has " ++ Nat.repr count
      ++ " digits; use sys.set_int_max_str_digits() to increase the limit"

inductive Place where
  | finish
  | at (line column : Nat)
  deriving DecidableEq, Repr

/-- The place after some characters of a text, of which others follow. -/
def Place.after (before : List Char) (left : Nat) : Place :=
  if left = 0 then .finish
  else .at (before.count '\n' + 1) ((before.reverse.takeWhile (· != '\n')).length + 1)

def Place.text : Place → String
  | finish => "end of document"
  | .at line column => "line " ++ Nat.repr line ++ ", column " ++ Nat.repr column

/-- A cause with the number of characters left where it was found. -/
structure Stop where
  cause : Cause
  left : Nat
  deriving DecidableEq, Repr

abbrev Scan := StateT (List Char) (Except Stop)

namespace Scan

def stop {α : Type} (cause : Cause) : Scan α := fun cs => .error ⟨cause, cs.length⟩

def stopAt {α : Type} (cs : List Char) (cause : Cause) : Scan α :=
  fun _ => .error ⟨cause, cs.length⟩

def rest : Scan (List Char) := get

def peek? : Scan (Option Char) := do return (← rest).head?

def isAt (mark : String) : Scan Bool := do return mark.toList.isPrefixOf (← rest)

def skip (n : Nat) : Scan Unit := modify (·.drop n)

def skip? (mark : String) : Scan Bool := do
  if ← isAt mark then
    skip mark.length
    return true
  else
    return false

/-- Takes the characters up to the first one that does not satisfy `p`. -/
def takeWhile (p : Char → Bool) : Scan (List Char) := fun cs => .ok (cs.takeWhile p, cs.dropWhile p)

/-- Skips the characters up to the first one that does not satisfy `p`. -/
def skipWhile (p : Char → Bool) : Scan Unit := modify (·.dropWhile p)

def isBlank (c : Char) : Bool := c == ' ' || c == '\t'

def isControl (c : Char) : Bool := (c.toNat < 32 && c != '\t') || c.toNat == 127

def skipBlanks : Scan Unit := skipWhile isBlank

/-- The characters in front of the first occurrence of a mark, if it occurs. -/
def before? (mark : List Char) : List Char → Option (List Char)
  | [] => if mark.isEmpty then some [] else none
  | c :: cs => if mark.isPrefixOf (c :: cs) then some [] else (before? mark cs).map (c :: ·)

/-- Takes some characters from the front, none of which may satisfy `bad`. -/
def takeClean (bad : Char → Bool) (taken : List Char) : Scan (List Char) := fun cs =>
  match (taken.dropWhile fun c => !bad c).head? with
  | some c => .error ⟨.controlChar c, cs.length - (taken.takeWhile fun c => !bad c).length⟩
  | none => .ok (taken, cs.drop taken.length)

def skipComment : Scan Unit := do
  if ← skip? "#" then
    let _ ← takeClean isControl ((← rest).takeWhile (· != '\n'))

/-- Skips blanks, ends of lines and comments, of which there are at most `fuel`. -/
def skipLayout : (fuel : Nat) → Scan Unit
  | 0 => return ()
  | fuel + 1 => do
    skipWhile fun c => isBlank c || c == '\n'
    if ← isAt "#" then
      skipComment
      skipLayout fuel

def layout : Scan Unit := do skipLayout ((← rest).length + 1)

end Scan

end DocScript.Toml
