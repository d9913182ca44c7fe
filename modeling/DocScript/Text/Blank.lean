import DocScript.Text.CodeRun

/-!
# Blank characters

White space and the separators `0x1C` to `0x1F`. `trim` removes them at both ends of a text.
-/

namespace DocScript.Text

def blanks : CodeSet :=
  [⟨0x9, 0xD, 1⟩, ⟨0x1C, 0x20, 1⟩, ⟨0x85, 0x85, 1⟩, ⟨0xA0, 0xA0, 1⟩, ⟨0x1680, 0x1680, 1⟩,
   ⟨0x2000, 0x200A, 1⟩, ⟨0x2028, 0x2029, 1⟩, ⟨0x202F, 0x202F, 1⟩, ⟨0x205F, 0x205F, 1⟩,
   ⟨0x3000, 0x3000, 1⟩]

def isBlank (c : Char) : Bool := blanks.contains c

/-- The characters without the blank ones at the start. -/
def trimStart (cs : List Char) : List Char := cs.dropWhile isBlank

/-- The characters without the blank ones at the end. -/
def trimEnd (cs : List Char) : List Char := (trimStart cs.reverse).reverse

/-- The characters without the blank ones at either end. -/
def trimChars (cs : List Char) : List Char := trimEnd (trimStart cs)

def isSpace (c : Char) : Bool := isBlank c && !(0x1C ≤ c.toNat && c.toNat ≤ 0x1F)

/-- The characters without white space at either end. Separators stay. -/
def trimSpaces (cs : List Char) : List Char :=
  ((cs.dropWhile isSpace).reverse.dropWhile isSpace).reverse

/-- The text without the blank characters at either end. -/
def trim (s : String) : String := String.ofList (trimChars s.toList)

end DocScript.Text
