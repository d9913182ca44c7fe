import DocScript.Json.Basic

/-!
# Tokens of JSON text

A token is a bracket, a comma, a colon or a value without parts. `tokens?` fails where the text
cannot be divided into tokens: at control characters inside strings, at unpaired surrogates, at
numerals with leading zeros, at integers too long to be read. Every reader leaves a rest that is no
longer than its text, and `length_of_token?` says that a token makes it shorter.
-/

namespace DocScript.Json

open Numeral

inductive Token where
  | mark (c : Char)
  | value (j : Json)
  deriving Repr

def isSpace (c : Char) : Bool := c == ' ' || c == '\t' || c == '\n' || c == '\r'

def hexValue? (c : Char) : Option Nat :=
  let n := c.toNat
  if 48 ≤ n ∧ n ≤ 57 then some (n - 48)
  else if 97 ≤ n ∧ n ≤ 102 then some (n - 87)
  else if 65 ≤ n ∧ n ≤ 70 then some (n - 55)
  else none

/-- The number that four digits of base 16 spell. -/
def hexQuad? (a b c d : Char) : Option Nat := do
  return ((← hexValue? a) * 16 + (← hexValue? b)) * 256 + (← hexValue? c) * 16 + (← hexValue? d)

/-- The character that a letter after a backslash stands for. -/
def escaped? (c : Char) : Option Char :=
  if c == '"' || c == '\\' || c == '/' then some c
  else if c == 'n' then some '\n'
  else if c == 't' then some '\t'
  else if c == 'r' then some '\r'
  else if c == 'b' then some '\x08'
  else if c == 'f' then some '\x0c'
  else none

/-- The characters up to the closing quote, and what follows it. -/
def stringBody? : List Char → Option (List Char × List Char)
  | [] => none
  | c :: rest =>
    if c == '"' then some ([], rest)
    else if c == '\\' then
      match rest with
      | 'u' :: a :: b :: c :: d :: rest => do
        let n ← hexQuad? a b c d
        if 0xD800 ≤ n ∧ n < 0xDC00 then
          match rest with
          | '\\' :: 'u' :: a :: b :: c :: d :: rest =>
            let m ← hexQuad? a b c d
            if 0xDC00 ≤ m ∧ m < 0xE000 then
              let (cs, rest) ← stringBody? rest
              return (Char.ofNat (0x10000 + (n - 0xD800) * 0x400 + (m - 0xDC00)) :: cs, rest)
            else none
          | _ => none
        else if 0xDC00 ≤ n ∧ n < 0xE000 then none
        else
          let (cs, rest) ← stringBody? rest
          return (Char.ofNat n :: cs, rest)
      | e :: rest => do
        let e ← escaped? e
        let (cs, rest) ← stringBody? rest
        return (e :: cs, rest)
      | [] => none
    else if c.toNat < 0x20 then none
    else do
      let (cs, rest) ← stringBody? rest
      return (c :: cs, rest)

theorem length_of_stringBody? {cs s rest : List Char} (h : stringBody? cs = some (s, rest)) :
    rest.length < cs.length := by
  fun_induction stringBody? cs generalizing s rest <;>
    grind [Option.bind_eq_some_iff, Option.bind_eq_bind, Option.pure_def]

/-- The digits at the start of a text, and what follows them. -/
def digitRun (cs : List Char) : List Char × List Char :=
  (cs.takeWhile Char.isDigit, cs.dropWhile Char.isDigit)

theorem length_digitRun (cs : List Char) : (digitRun cs).2.length ≤ cs.length :=
  (List.dropWhile_suffix _).length_le

def digitValues (ds : List Char) : List Nat := ds.map fun d => d.toNat - 48

/-- Reads an exponent after a number, if there is one. -/
def exponent? : List Char → Option (Option Int × List Char)
  | c :: rest =>
    if c == 'e' || c == 'E' then
      let (negative, rest) := splitSign rest
      let (ds, rest) := digitRun rest
      if ds.isEmpty then none else some (some (signed negative (ofDigits (digitValues ds))), rest)
    else some (none, c :: rest)
  | [] => some (none, [])

theorem length_of_exponent? {cs rest : List Char} {e : Option Int}
    (h : exponent? cs = some (e, rest)) : rest.length ≤ cs.length := by
  have := length_digitRun
  unfold exponent? splitSign at h
  grind

/-- Reads a fraction after an integer, if there is one. -/
def fraction? : List Char → Option (List Nat × List Char)
  | '.' :: rest =>
    let (ds, rest) := digitRun rest
    if ds.isEmpty then none else some (digitValues ds, rest)
  | cs => some ([], cs)

theorem length_of_fraction? {cs rest : List Char} {ds : List Nat}
    (h : fraction? cs = some (ds, rest)) : rest.length ≤ cs.length := by
  have := length_digitRun
  unfold fraction? at h
  grind

def number? (negative : Bool) (cs : List Char) : Option (Json × List Char) := do
  let (ds, rest) := digitRun cs
  if ds.isEmpty || (ds.length > 1 && ds.head? == some '0') then none
  else
    let (fraction, rest) ← fraction? rest
    let (exponent, rest) ← exponent? rest
    if fraction.isEmpty && exponent.isNone then
      if ds.length ≤ maxDigits then
        return (int (signed negative (ofDigits (digitValues ds))), rest)
      else none
    else
      let coefficient := ofDigits (digitValues ds ++ fraction)
      return (float (.ofDecimal negative coefficient (exponent.getD 0 - fraction.length)), rest)

theorem length_of_number? {negative : Bool} {cs rest : List Char} {j : Json}
    (h : number? negative cs = some (j, rest)) : rest.length < cs.length := by
  have run : (digitRun cs).1.length + (digitRun cs).2.length = cs.length := by
    rw [digitRun, ← List.length_append, List.takeWhile_append_dropWhile]
  rw [number?] at h
  dsimp only at h
  split at h
  · cases h
  · next hd =>
    have nonempty : (digitRun cs).1 ≠ [] := by grind
    simp only [Option.bind_eq_bind, Option.bind_eq_some_iff, Prod.exists, Option.pure_def] at h
    obtain ⟨fraction, cs', hf, exponent, rest', he, h⟩ := h
    have hr : rest' = rest := by grind
    have := length_of_fraction? hf
    have := length_of_exponent? he
    have := List.length_pos_iff.2 nonempty
    subst hr
    omega

def skipWord? (word : String) (cs : List Char) : Option (List Char) :=
  if word.toList.isPrefixOf cs then some (cs.drop word.length) else none

theorem length_of_skipWord? {word : String} {cs rest : List Char} (hw : word ≠ "")
    (h : skipWord? word cs = some rest) : rest.length < cs.length := by
  unfold skipWord? at h
  split at h
  · next hp =>
    have := (List.isPrefixOf_iff_prefix.1 hp).length_le
    simp only [Option.some.injEq] at h
    subst h
    simp only [List.length_drop, String.length_toList] at *
    have : word.length ≠ 0 := by simpa using hw
    omega
  · cases h

def words : List (String × Json) :=
  [("null", null), ("true", bool true), ("false", bool false), ("NaN", float .nan),
    ("Infinity", float (.infinite false)), ("-Infinity", float (.infinite true))]

theorem length_of_word {cs rest : List Char} {j : Json}
    (h : (words.findSome? fun (w, j) => (skipWord? w cs).map (j, ·)) = some (j, rest)) :
    rest.length < cs.length := by
  obtain ⟨⟨w, k⟩, hm, h⟩ := List.exists_of_findSome?_eq_some h
  have hw : w ≠ "" := by
    rintro rfl
    revert hm
    simp [words]
  obtain ⟨cs', hr, hj⟩ := Option.map_eq_some_iff.1 h
  cases hj
  exact length_of_skipWord? hw hr

def token? : List Char → Option (Token × List Char)
  | [] => none
  | c :: rest =>
    if c == '[' || c == ']' || c == '\x7b' || c == '\x7d' || c == ',' || c == ':' then
      some (.mark c, rest)
    else if c == '"' then do
      let (cs, rest) ← stringBody? rest
      return (.value (str (String.ofList cs)), rest)
    else
      match words.findSome? fun (w, j) => (skipWord? w (c :: rest)).map (j, ·) with
      | some (j, rest) => some (.value j, rest)
      | none =>
        (if c == '-' then number? true rest else number? false (c :: rest)).map
          fun (j, rest) => (.value j, rest)

theorem length_of_token? {cs rest : List Char} {t : Token} (h : token? cs = some (t, rest)) :
    rest.length < cs.length := by
  unfold token? at h
  split at h
  · cases h
  · next c cs' =>
    split at h
    · cases h
      exact Nat.lt_succ_self _
    · split at h
      · simp only [Option.bind_eq_bind, Option.bind_eq_some_iff, Prod.exists, Option.pure_def] at h
        obtain ⟨s, r, hs, h⟩ := h
        cases h
        exact Nat.lt_succ_of_lt (length_of_stringBody? hs)
      · split at h
        · next hw =>
          cases h
          exact length_of_word hw
        · obtain ⟨⟨j, r⟩, hj, h⟩ := Option.map_eq_some_iff.1 h
          cases h
          split at hj
          · exact Nat.lt_succ_of_lt (length_of_number? hj)
          · exact length_of_number? hj

def tokens? (cs : List Char) : Option (List Token) :=
  match _hs : cs.dropWhile isSpace with
  | [] => some []
  | c :: cs' =>
    match _ht : token? (c :: cs') with
    | none => none
    | some (t, rest) => (tokens? rest).map (t :: ·)
termination_by cs.length
decreasing_by
  have := length_of_token? _ht
  have := (List.dropWhile_suffix (l := cs) isSpace).length_le
  grind

end DocScript.Json
