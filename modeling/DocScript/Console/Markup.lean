import DocScript.Console.Action
import DocScript.Console.Emoji
import DocScript.Console.Style
import DocScript.Console.Styled

/-!
# Markup

Markup is text with tags in square brackets. A tag opens a style, and a tag that starts with a
slash closes the one that it names, or the last one. A backslash before a tag makes it text. Names
between colons stand for emoji. `Styled.ofMarkup?` gives the text, unless a closing tag has no
opening one.
-/

namespace DocScript.Console

open Text

/-- A tag: a name, and what stands after an equals sign. -/
structure Tag where
  name : String
  argument : Option String
  deriving DecidableEq, Repr

namespace Tag

def style (t : Tag) : String :=
  match t.argument with
  | none => t.name
  | some a => t.name ++ " " ++ a

/-- Splits what stands in the brackets at the first equals sign. -/
def ofChars (cs : List Char) : Tag :=
  let name := cs.takeWhile (· ≠ '=')
  match cs.drop name.length with
  | [] => ⟨String.ofList name, none⟩
  | _ :: argument => ⟨String.ofList name, some (String.ofList argument)⟩

def isAction (t : Tag) : Bool := t.name.startsWith "@"

/-- The style of a span that the tag opened. An action gives its text no style. -/
def spanStyle? (t : Tag) : Option String :=
  if t.isAction then
    if isActionArgument (trimChars (t.argument.getD "").toList) then some "" else none
  else some t.style

end Tag

inductive Markup where
  | text (cs : List Char)
  | tag (t : Tag)
  deriving DecidableEq, Repr

def isTagStart (c : Char) : Bool :=
  ('a' ≤ c && c ≤ 'z') || c == '#' || c == '/' || c == '@'

/-- Reads the inside of a tag and its closing bracket. -/
def tagInside? (cs : List Char) : Option (List Char) :=
  let inside := cs.takeWhile fun c => c != '[' && c != ']'
  if cs.head?.any isTagStart && (cs.drop inside.length).head? == some ']' then some inside else none

namespace Markup

def textOf (cs : List Char) : List Markup := if cs.isEmpty then [] else [text cs]

/-- The parts of markup. `skip` characters are left out, `plain` is the text so far in reverse
order, and `slashes` backslashes stand after it. -/
def partsFrom (plain : List Char) (slashes : Nat) : (skip : Nat) → List Char → List Markup
  | _, [] => textOf (plain.reverse ++ List.replicate slashes '\\')
  | skip + 1, _ :: cs => partsFrom plain slashes skip cs
  | 0, c :: cs =>
    if c == '\\' then partsFrom plain (slashes + 1) 0 cs
    else
      match (if c == '[' then tagInside? cs else none) with
      | some inside =>
        let last := if slashes % 2 = 0 then tag (.ofChars inside) else text ('[' :: inside ++ [']'])
        textOf plain.reverse ++ textOf (List.replicate (slashes / 2) '\\') ++ last
          :: partsFrom [] 0 (inside.length + 1) cs
      | none => partsFrom (c :: List.replicate slashes '\\' ++ plain) 0 0 cs

def parts (s : String) : List Markup := partsFrom [] 0 0 s.toList

/-- Drops the backslashes that stand before an opening bracket. -/
def unescape : List Char → List Char
  | [] => []
  | '\\' :: '[' :: cs => '[' :: unescape cs
  | c :: cs => c :: unescape cs

/-- Text with the tags that are open, the last one first, each with the place of its start. -/
structure Draft where
  text : Styled
  opened : List (Nat × Tag)

namespace Draft

def close (d : Draft) (start : Nat) (t : Tag) (rest : List (Nat × Tag)) : Option Draft :=
  t.spanStyle?.map fun style =>
    ⟨{ d.text with spans := ⟨start, d.text.length, style⟩ :: d.text.spans }, rest⟩

/-- Closes the last tag of a name, or the last tag if there is no name. -/
def closeNamed (d : Draft) (name : String) : Option Draft :=
  if name = "" then
    match d.opened with
    | [] => none
    | (start, t) :: rest => d.close start t rest
  else
    match styleName? name with
    | none => none
    | some name =>
      match d.opened.findIdx? fun x => x.2.name = name with
      | none => none
      | some i => d.opened[i]?.bind fun (start, t) => d.close start t (d.opened.eraseIdx i)

def add (d : Draft) : Markup → Option Draft
  | .text cs =>
    some { d with text := { d.text with
      chars := d.text.chars ++ shown (withEmoji (unescape cs)) } }
  | .tag t =>
    if t.name.startsWith "/" then d.closeNamed (trim (String.ofList (t.name.toList.drop 1)))
    else
      (styleName? t.name).map fun name =>
        { d with opened := (d.text.length, { t with name }) :: d.opened }

def finish (d : Draft) : Styled :=
  let spans := d.opened.map fun (start, t) => ⟨start, d.text.length, t.style⟩
  { d.text with spans := d.text.spans ++ spans }

end Draft

end Markup

def Styled.ofMarkup? (s : String) : Option Styled :=
  if s.contains '[' then
    ((Markup.parts s).foldlM Markup.Draft.add (⟨⟨[], []⟩, []⟩ : Markup.Draft)).map (·.finish)
  else some ⟨shown (withEmoji s.toList), []⟩

end DocScript.Console
