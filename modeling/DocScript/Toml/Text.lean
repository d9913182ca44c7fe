import DocScript.Json.Token
import DocScript.Toml.Scan

/-!
# Texts and keys

A text stands between quotes, in which a backslash escapes, or between apostrophes, in which
nothing does; three of either open a text of several lines. A key is a text of one line or a run
of letters, digits, hyphens and low lines, and keys are joined by points.
-/

namespace DocScript.Toml.Scan

def apostrophe : String := "\x27"

/-- The letters after a backslash with what they stand for. -/
def escapes : List (Char × Char) :=
  [('b', '\x08'), ('t', '\t'), ('n', '\n'), ('f', '\x0c'), ('r', '\r'), ('"', '"'), ('\\', '\\')]

/-- Reads the number of a character in some digits of base 16. -/
def codePoint (digits : Nat) : Scan Char := do
  let cs := (← rest).take digits
  match cs.mapM Json.hexValue? with
  | none => stop .hexDigits
  | some ds =>
    if ds.length ≠ digits then stop .hexDigits
    else
      skip digits
      let n := ds.foldl (fun n d => 16 * n + d) 0
      if n < 0xD800 || (0xDFFF < n && n < 0x110000) then return Char.ofNat n
      else stop .notScalar

/-- Reads a blank or the end of a line after a backslash: all is skipped up to the next character
that is neither, which has to stand on a later line. -/
def continuation : Scan Unit := do
  skipBlanks
  match ← peek? with
  | none => return ()
  | some c =>
    if c == '\n' then skipWhile fun c => isBlank c || c == '\n'
    else stop .escape

def escape (lines : Bool) : Scan (List Char) := do
  match ← peek? with
  | none => stop .escape
  | some c =>
    if lines && (isBlank c || c == '\n') then
      continuation
      return []
    else
      skip 1
      if c == 'u' then return [← codePoint 4]
      else if c == 'U' then return [← codePoint 8]
      else
        match escapes.lookup c with
        | some e => return [e]
        | none => stop .escape

/-- Reads up to the closing quotes, in pieces of which there are at most `fuel`. -/
def quotedBody (lines : Bool) : (fuel : Nat) → Scan (List Char)
  | 0 => stop .stringEnd
  | fuel + 1 => do
    let plain ← takeWhile fun c => c != '"' && c != '\\' && (!isControl c || (lines && c == '\n'))
    match ← peek? with
    | none => stop .stringEnd
    | some c =>
      if c == '"' then
        if lines then
          if ← skip? "\"\"\"" then return plain
          else
            skip 1
            return plain ++ c :: (← quotedBody lines fuel)
        else
          skip 1
          return plain
      else if c == '\\' then
        skip 1
        let e ← escape lines
        return plain ++ e ++ (← quotedBody lines fuel)
      else
        stop (.charInString c)

def quotedText (lines : Bool) : Scan (List Char) := do
  quotedBody lines ((← rest).length + 1)

def literalBody (mark : String) (lines : Bool) : Scan (List Char) := do
  match before? mark.toList (← rest) with
  | none => stopAt [] (.missing mark)
  | some cs =>
    let cs ← takeClean (fun c => isControl c && !(lines && c == '\n')) cs
    skip mark.length
    return cs

/-- Up to two more quotes in front of the closing ones belong to a text of several lines. -/
def moreQuotes (quote : String) : Scan (List Char) := do
  if ← skip? quote then
    if ← skip? quote then return quote.toList ++ quote.toList
    else return quote.toList
  else
    return []

/-- Reads a text of several lines after its opening quotes, without a first line that is empty. -/
def lines (quote : String) (body : Scan (List Char)) : Scan String := do
  let _ ← skip? "\n"
  let cs ← body
  return String.ofList (cs ++ (← moreQuotes quote))

def text? (severalLines : Bool) : Scan (Option String) := do
  let three := apostrophe ++ apostrophe ++ apostrophe
  if severalLines && (← isAt "\"\"\"") then
    skip 3
    return some (← lines "\"" (quotedText true))
  else if severalLines && (← isAt three) then
    skip 3
    return some (← lines apostrophe (literalBody three true))
  else if ← skip? "\"" then
    return some (String.ofList (← quotedText false))
  else if ← skip? apostrophe then
    return some (String.ofList (← literalBody apostrophe false))
  else
    return none

def isBare (c : Char) : Bool := c.isAlphanum || c == '-' || c == '_'

def startsKey (c : Char) : Bool := isBare c || c == '"' || c == '\x27'

def key : Scan String := do
  match ← text? false with
  | some s => return s
  | none =>
    let cs ← takeWhile isBare
    if cs.isEmpty then stop .keyStart else return String.ofList cs

/-- Reads keys with points between them, at most `fuel`, and the blanks around them. -/
def keysUpTo : (fuel : Nat) → Scan Path
  | 0 => stop .keyStart
  | fuel + 1 => do
    let k ← key
    skipBlanks
    if ← skip? "." then
      skipBlanks
      return k :: (← keysUpTo fuel)
    else
      return [k]

def keys : Scan Path := do keysUpTo ((← rest).length + 1)

end DocScript.Toml.Scan
