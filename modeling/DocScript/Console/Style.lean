import DocScript.Console.Color
import DocScript.Text.Blank

/-!
# Styles of text

A style is written as words: attributes, each perhaps negated, a color, a background and a link.
`Style.text` writes it in one way, so that two texts of one style can be told to be the same.
-/

namespace DocScript.Console

open Text

/-- The attributes of text, in the order in which a style lists them. -/
inductive Attribute where
  | bold | dim | italic | underline | blink | blink2 | reverse | conceal | strike | underline2
  | frame | encircle | overline
  deriving DecidableEq, Repr

namespace Attribute

def all : List Attribute :=
  [bold, dim, italic, underline, blink, blink2, reverse, conceal, strike, underline2, frame,
   encircle, overline]

def word : Attribute → String
  | bold => "bold"
  | dim => "dim"
  | italic => "italic"
  | underline => "underline"
  | blink => "blink"
  | blink2 => "blink2"
  | reverse => "reverse"
  | conceal => "conceal"
  | strike => "strike"
  | underline2 => "underline2"
  | frame => "frame"
  | encircle => "encircle"
  | overline => "overline"

def shortWords : List (String × Attribute) :=
  [("d", dim), ("b", bold), ("i", italic), ("u", underline), ("r", reverse), ("c", conceal),
   ("s", strike), ("uu", underline2), ("o", overline)]

def ofWord? (s : String) : Option Attribute :=
  (all.find? fun a => a.word == s).or (shortWords.lookup s)

end Attribute

/-- A style of text. Of two settings of one attribute the first counts. -/
structure Style where
  attributes : List (Attribute × Bool)
  color : Option String
  background : Option String
  link : Option String
  deriving DecidableEq, Repr

namespace Style

def plain : Style := ⟨[], none, none, none⟩

def ofWords (style : Style) : List String → Except ColorFault Style
  | [] => .ok style
  | w :: ws =>
    let word := lower w
    if word = "on" then
      match ws with
      | [] => .error .unknown
      | c :: ws => do
        let name ← colorOf c
        ofWords { style with background := some name } ws
    else if word = "not" then
      match ws with
      | [] => .error .unknown
      | a :: ws =>
        match Attribute.ofWord? a with
        | none => .error .unknown
        | some a => ofWords { style with attributes := (a, false) :: style.attributes } ws
    else if word = "link" then
      match ws with
      | [] => .error .unknown
      | target :: ws => ofWords { style with link := some target } ws
    else
      match Attribute.ofWord? word with
      | some a => ofWords { style with attributes := (a, true) :: style.attributes } ws
      | none => do
        let name ← colorOf word
        ofWords { style with color := some name } ws

def wordsOf (s : String) : List String :=
  ((s.toList.splitOnP isBlank).filter (!·.isEmpty)).map String.ofList

def ofText (s : String) : Except ColorFault Style :=
  let words := wordsOf s
  if words = ["none"] then .ok plain else ofWords plain words

/-- The words of a style: its attributes in order, its color, its background and its link. -/
def words (s : Style) : List String :=
  (Attribute.all.flatMap fun a =>
    match s.attributes.lookup a with
    | none => []
    | some true => [a.word]
    | some false => ["not", a.word])
  ++ s.color.toList
  ++ (s.background.map fun b => ["on", b]).getD []
  ++ (s.link.map fun l => ["link", l]).getD []

def text (s : Style) : String :=
  if s.words.isEmpty then "none" else " ".intercalate s.words

end Style

/-- The name of a style in its one written form. A name that gives no style is taken in lower case
and without the blanks around it. -/
def styleName? (name : String) : Option String :=
  match Style.ofText name with
  | .ok style => some style.text
  | .error .unknown => some (lower (trim name))
  | .error .unreadable => none

/-- A text that cannot be read as a style or as none. -/
def isUnreadableStyle (s : String) : Bool :=
  match Style.ofText s with
  | .error .unreadable => true
  | _ => false

end DocScript.Console
