import DocScript.Text.WidthTable

/-!
# Width on a terminal

The width of a text is the number of its columns. Two characters look at their neighbours: a
joiner hides the character that follows it, and the emoji variation selector widens the character
before it. `clusters` divides a text where it may be cut.
-/

namespace DocScript.Text

def joiner : Char := '\u200d'

def emojiSelector : Char := '\ufe0f'

def isControl (c : Char) : Bool :=
  c.toNat < 0x20 || (0x7F ≤ c.toNat && c.toNat < 0xA0)

def charWidth (c : Char) : Nat :=
  if isControl c || widthless.contains c then 0 else if wide.contains c then 2 else 1

/-- The columns of characters that follow `last`, the character that a selector may widen. -/
def widthFrom (last : Option Char) : List Char → Nat
  | [] => 0
  | c :: cs =>
    if c == joiner then
      match cs with
      | [] => 0
      | _ :: rest => widthFrom last rest
    else if c == emojiSelector then (if last.any widening.contains then 1 else 0) + widthFrom none cs
    else
      let w := charWidth c
      if w = 0 then widthFrom last cs else w + widthFrom (some c) cs

def columns (cs : List Char) : Nat := widthFrom none cs

def width (s : String) : Nat := columns s.toList

/-- Characters that are shown together, with their columns. -/
structure Cluster where
  chars : List Char
  columns : Nat
  deriving DecidableEq, Repr

def Cluster.append (k : Cluster) (cs : List Char) (columns : Nat) : Cluster :=
  ⟨k.chars ++ cs, k.columns + columns⟩

/-- Adds the clusters of characters to `done`, the last first. A character without columns belongs
to the cluster before it, and a joiner takes the next character along. -/
def clustersFrom (last : Option Char) (done : List Cluster) : List Char → List Cluster
  | [] => done.reverse
  | c :: cs =>
    match done with
    | [] =>
      let w := if c == joiner || c == emojiSelector then 0 else charWidth c
      clustersFrom (if w = 0 then last else some c) [⟨[c], w⟩] cs
    | k :: ks =>
      if c == joiner then
        match cs with
        | [] => (k.append [c] 0 :: ks).reverse
        | d :: rest => clustersFrom last (k.append [c, d] 0 :: ks) rest
      else if c == emojiSelector then
        if last.any widening.contains then clustersFrom none (k.append [c] 1 :: ks) cs
        else clustersFrom last (k.append [c] 0 :: ks) cs
      else
        let w := charWidth c
        if w = 0 then clustersFrom last (k.append [c] 0 :: ks) cs
        else clustersFrom (some c) (⟨[c], w⟩ :: k :: ks) cs

def clusters (cs : List Char) : List Cluster := clustersFrom none [] cs

/-- The characters of the clusters that fit into some columns. A blank stands for a cluster that
fits only in part. -/
def cropClusters (room : Nat) : List Cluster → List Char
  | [] => []
  | k :: ks =>
    if room = 0 then []
    else if room < k.columns then [' ']
    else k.chars ++ cropClusters (room - k.columns) ks

/-- Characters that take `room` columns, cropped or with blanks at the end. -/
def fit (room : Nat) (cs : List Char) : List Char :=
  if columns cs ≤ room then cs ++ List.replicate (room - columns cs) ' '
  else cropClusters room (clusters cs)

/-- Divides clusters into pieces that fit into some columns. `used` counts the columns of `piece`;
a last piece without columns is left out. -/
def chopClusters (room used : Nat) (piece : List Char) : List Cluster → List (List Char)
  | [] => if used = 0 then [] else [piece]
  | k :: ks =>
    if room < used + k.columns then piece :: chopClusters room k.columns k.chars ks
    else chopClusters room (used + k.columns) (piece ++ k.chars) ks

/-- Divides characters into pieces that fit into some columns. -/
def chop (room : Nat) (cs : List Char) : List (List Char) :=
  chopClusters room 0 [] (clusters cs)

end DocScript.Text
