import DocScript.Console.EmojiTable
import DocScript.Numeral.Digits
import DocScript.Text.Blank
import DocScript.Text.CaseMap

/-!
# Emoji by name

A name between colons stands for an emoji. The name may end in a variant, which adds a variation
selector.
-/

namespace DocScript.Console

open Text

/-- The value of hexadecimal digits in upper case. -/
def hexNumber (cs : List Char) : Nat :=
  cs.foldl (fun n c => 16 * n + (if c.isDigit then c.toNat - 48 else c.toNat - 55)) 0

def codePoints (s : String) : List Char :=
  (s.toList.splitOn '-').map fun digits => Char.ofNat (hexNumber digits)

def emojis : List (String × List Char) :=
  (emojiRows.flatMap (·.splitOn " ")).map fun entry =>
    match entry.splitOn "=" with
    | [name, codes] => (name, codePoints codes)
    | _ => (entry, [])

/-- The endings of names that choose a variant, with their variation selectors. -/
def emojiVariants : List (List Char × Char) :=
  [("-emoji".toList, '\ufe0f'), ("-text".toList, '\ufe0e')]

/-- A name without the ending that chooses a variant, and what the ending adds. -/
def splitVariant (name : List Char) : List Char × List Char :=
  match emojiVariants.find? fun v => v.1.isSuffixOf name with
  | some (ending, selector) => (name.take (name.length - ending.length), [selector])
  | none => (name, [])

/-- The emoji of a name, which may end in a variant. -/
def emoji? (name : List Char) : Option (List Char) :=
  let (stem, selector) := splitVariant name
  (emojis.lookup (lower (String.ofList stem))).map (· ++ selector)

def emojiName? (cs : List Char) : Option (List Char) :=
  let name := cs.takeWhile fun c => c != ':' && !isBlank c
  if (cs.drop name.length).head? == some ':' then some name else none

/-- Puts emoji in the place of names after `skip` characters that are left out. A name that no
emoji has stays. -/
def withEmojiFrom : (skip : Nat) → List Char → List Char
  | _, [] => []
  | skip + 1, _ :: cs => withEmojiFrom skip cs
  | 0, c :: cs =>
    match (if c == ':' then emojiName? cs else none) with
    | some name =>
      (emoji? name).getD (':' :: name ++ [':']) ++ withEmojiFrom (name.length + 1) cs
    | none => c :: withEmojiFrom 0 cs

/-- Puts emoji in the place of their names between colons. -/
def withEmoji (cs : List Char) : List Char := withEmojiFrom 0 cs

end DocScript.Console
