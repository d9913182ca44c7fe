import DocScript.Console.Styled

/-!
# Wrapped text

Text is broken between words into lines of some columns. What is too long for a line is folded or
ends in an ellipsis.
-/

namespace DocScript.Console

open Text

/-- What becomes of a word that is longer than a line. -/
inductive Overflow where
  /-- It goes on in the next line. -/
  | fold
  /-- It is cropped, and an ellipsis marks the place. -/
  | ellipsis
  deriving DecidableEq, Repr

inductive Side where
  | left | right
  deriving DecidableEq, Repr

/-- How text is set in lines. A side gives all lines the same columns. -/
structure Setting where
  side : Option Side
  overflow : Overflow
  wraps : Bool
  deriving DecidableEq, Repr

/-- The words with the blanks after them, the first also with the blanks before it. -/
def words (cs : List Char) : List (List Char) :=
  match (trimStart cs).splitBy fun c next => !(isBlank c && !isBlank next) with
  | [] => []
  | w :: ws => (cs.takeWhile isBlank ++ w) :: ws

/-- Where pieces start of which the first one starts at `start`. -/
def pieceStarts (start : Nat) : List (List Char) → List Nat
  | [] => []
  | p :: ps => start :: pieceStarts (start + p.length) ps

/-- Where lines of some columns start among words. `used` columns of the line are taken, and
`start` characters stand before the words. -/
def lineStarts (room : Nat) (overflow : Overflow) : (used start : Nat) → List (List Char) →
    List Nat
  | _, _, [] => []
  | used, start, w :: ws =>
    let next := start + w.length
    let size := columns (trimEnd w)
    let here := if start = 0 then [] else [start]
    if used + size ≤ room then lineStarts room overflow (used + columns w) next ws
    else if size ≤ room then
      if used = 0 || start = 0 then lineStarts room overflow used next ws
      else start :: lineStarts room overflow (columns w) next ws
    else
      match overflow with
      | .ellipsis => here ++ lineStarts room overflow (columns w) next ws
      | .fold =>
        let pieces := chop room w
        let used := (pieces.getLast?.map columns).getD used
        (pieceStarts start pieces).filter (· ≠ 0) ++ lineStarts room overflow used next ws

namespace Styled

/-- The text without blanks at its end, as far as it has more than some characters. -/
def trimExcess (s : Styled) (room : Nat) : Styled :=
  let blanks := s.length - (trimEnd s.chars).length
  let excess := min blanks (s.length - room)
  if excess = 0 then s else s.keep (s.length - excess)

def truncate (s : Styled) (room : Nat) (overflow : Overflow) : Styled :=
  if s.columns ≤ room then s
  else
    match overflow with
    | .fold => s.withChars (fit room s.chars)
    | .ellipsis => s.withChars (fit (room - 1) s.chars ++ ['…'])

def justify (s : Styled) (room : Nat) (overflow : Overflow) : Option Side → Styled
  | none => s
  | some .left =>
    let t := s.truncate room overflow
    { t with chars := t.chars ++ List.replicate (room - s.columns) ' ' }
  | some .right =>
    let t := (s.withChars (trimEnd s.chars)).truncate room overflow
    append ⟨List.replicate (room - t.columns) ' ', []⟩ t

def wrap (s : Styled) (room : Nat) (setting : Setting) : List Styled :=
  s.lines.flatMap fun line =>
    let line := line.expandTabs
    let parts :=
      if setting.wraps then line.divide (lineStarts room setting.overflow 0 0 (words line.chars))
      else [line]
    parts.map fun part =>
      ((part.trimExcess room).justify room setting.overflow setting.side).truncate room
        setting.overflow

end Styled

end DocScript.Console
