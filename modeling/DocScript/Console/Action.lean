import DocScript.Text.Digit

/-!
# Arguments of actions

A tag may name an action and give it an argument: the name of a handler, perhaps with values in
brackets, or a value. `isActionArgument` tells whether an argument can be read. Values are numbers,
quoted texts, constants, and tuples, sets and mappings of values. They cannot hold square
brackets, which end a tag.
-/

namespace DocScript.Console

open Text

/-- What a value is, as far as it matters for where it may stand. -/
inductive ValueKind where
  /-- A real number without a sign. -/
  | real
  /-- A real number with a sign. -/
  | signed
  /-- An imaginary number without a sign. -/
  | imaginary
  /-- Any other number, a text, a constant or a tuple. -/
  | plain
  /-- Bytes in quotes. -/
  | bytes
  /-- Text in quotes. -/
  | text
  /-- A set, a mapping or a tuple that holds one: it is no key. -/
  | keyless
  deriving DecidableEq, Repr

namespace ValueKind

def isDigits (isDigit : Char → Bool) (cs : List Char) : Bool :=
  (cs.splitOn '_').all fun part => !part.isEmpty && part.all isDigit

def baseDigit? (base : Char) : Option (Char → Bool) :=
  match base.toLower with
  | 'x' => some fun c => c.isDigit || ('a' ≤ c.toLower && c.toLower ≤ 'f')
  | 'o' => some fun c => '0' ≤ c && c ≤ '7'
  | 'b' => some fun c => c == '0' || c == '1'
  | _ => none

/-- The characters before an exponent and those after it with its sign left out. -/
def splitExponent (cs : List Char) : List Char × Option (List Char) :=
  let mantissa := cs.takeWhile fun c => c != 'e' && c != 'E'
  match cs.drop mantissa.length with
  | [] => (mantissa, none)
  | _ :: '+' :: digits | _ :: '-' :: digits => (mantissa, some digits)
  | _ :: digits => (mantissa, some digits)

def isFraction (cs : List Char) : Bool :=
  let (mantissa, exponent) := splitExponent cs
  let whole := mantissa.takeWhile (· ≠ '.')
  let decimal (part : List Char) : Bool := isDigits Char.isDigit part
  exponent.all decimal &&
    match mantissa.drop whole.length with
    | [] => exponent.isSome && decimal whole
    | _ :: places =>
      (whole.isEmpty || decimal whole) && (places.isEmpty || decimal places)
        && !(whole.isEmpty && places.isEmpty)

/-- Digits of a whole number: a leading zero stands only before zeros. -/
def isWhole (cs : List Char) : Bool :=
  isDigits Char.isDigit cs && (cs.head? != some '0' || cs.all fun c => c == '0' || c == '_')
    && (cs.filter Char.isDigit).length ≤ 4300

def ofNumber? (cs : List Char) : Option ValueKind :=
  match cs with
  | '0' :: base :: digits =>
    match baseDigit? base with
    | some isDigit =>
      let digits := if digits.head? == some '_' then digits.tail else digits
      if isDigits isDigit digits then some real else none
    | none => decimal? cs
  | _ => decimal? cs
where
  /-- The kind of a number without a base. -/
  decimal? (cs : List Char) : Option ValueKind :=
    if isWhole cs || isFraction cs then some real
    else if cs.getLast?.any (fun c => c == 'j' || c == 'J')
        && (isDigits Char.isDigit cs.dropLast || isFraction cs.dropLast) then some imaginary
    else none

/-- The characters of a number: a sign belongs to it after an exponent. -/
def numberChars (cs : List Char) : List Char :=
  let first := cs.takeWhile fun c => isWord c || c == '.'
  let isHex := (first.drop 1).head?.any fun c => c == 'x' || c == 'X'
  if !isHex && first.getLast?.any (fun c => c == 'e' || c == 'E') then
    match cs.drop first.length with
    | c :: rest =>
      if c == '+' || c == '-' then first ++ c :: rest.takeWhile (fun c => isWord c) else first
    | [] => first
  else first

/-- The hexadecimal digits that an escape in a text has. -/
def escapeDigits? (isBytes : Bool) (c : Char) : Option Nat :=
  if c == 'x' then some 2
  else if isBytes then none
  else if c == 'u' then some 4
  else if c == 'U' then some 8
  else none

def hexValue (cs : List Char) : Nat :=
  cs.foldl (fun n c =>
    16 * n + (if c.isDigit then c.toNat - 48 else c.toLower.toNat - 87)) 0

/-- Reads a text up to its closing quotes, after `skip` characters that are left out. -/
def textRest? (isRaw isBytes : Bool) (quotes : List Char) : (skip : Nat) → List Char →
    Option (List Char)
  | _, [] => none
  | skip + 1, _ :: cs => textRest? isRaw isBytes quotes skip cs
  | 0, c :: cs =>
    if quotes.isPrefixOf (c :: cs) then some ((c :: cs).drop quotes.length)
    else if (c == '\n' && quotes.length = 1) || (isBytes && 0x80 ≤ c.toNat) || c.toNat = 0 then none
    else if c != '\\' then textRest? isRaw isBytes quotes 0 cs
    else
      match cs with
      | [] => none
      | d :: rest =>
        if isBytes && 0x80 ≤ d.toNat then none
        else if isRaw then textRest? isRaw isBytes quotes 1 cs
        else
          match escapeDigits? isBytes d with
          | some count =>
            let digits := rest.take count
            if digits.length = count && digits.all (isDigits hexDigit [·])
                && hexValue digits ≤ 0x10FFFF then textRest? isRaw isBytes quotes (count + 1) cs
            else none
          | none =>
            if d == 'N' && !isBytes then none else textRest? isRaw isBytes quotes 1 cs
where
  /-- A hexadecimal digit. -/
  hexDigit (c : Char) : Bool := c.isDigit || ('a' ≤ c.toLower && c.toLower ≤ 'f')

/-- Reads a text in quotes after the letters before it. -/
def quoted? (letters cs : List Char) : Option (ValueKind × List Char) :=
  let letters := letters.map Char.toLower
  let isRaw := letters.contains 'r'
  let isBytes := letters.contains 'b'
  let quotes := (cs.takeWhile fun c => some c == cs.head?).take 3
  let quotes := if quotes.length = 2 then quotes.take 1 else quotes
  if [[], ['r'], ['u'], ['b'], ['b', 'r'], ['r', 'b']].contains letters then
    (textRest? isRaw isBytes quotes 0 (cs.drop quotes.length)).map
      ((if isBytes then bytes else text), ·)
  else none

/-- Drops blanks and comments, and inside of brackets line ends too. A backslash joins two
lines. -/
def skipBlanks (deep comment : Bool) : List Char → List Char
  | [] => []
  | '\\' :: '\n' :: cs => if comment && !deep then '\n' :: cs else skipBlanks deep false cs
  | c :: cs =>
    if comment && c != '\n' then skipBlanks deep true cs
    else if c == ' ' || c == '\t' || c == '\x0c' || (c == '\n' && deep) then
      skipBlanks deep false cs
    else if c == '#' then skipBlanks deep true cs
    else c :: cs

def tuple (kinds : List ValueKind) : ValueKind :=
  if kinds.contains keyless then keyless else plain

mutual

/-- Reads a value: a number may have a sign, and an imaginary number may be added to it. -/
def value? (fuel : Nat) (deep : Bool) (cs : List Char) : Option (ValueKind × List Char) :=
  match fuel with
  | 0 => none
  | fuel + 1 => do
    let cs := skipBlanks deep false cs
    let (kind, rest) ← (
      if cs.head?.any fun c => c == '+' || c == '-' then
        match atom? fuel deep (skipBlanks deep false cs.tail) with
        | some (.real, rest) => some (.signed, rest)
        | some (.imaginary, rest) => some (.plain, rest)
        | _ => none
      else atom? fuel deep cs)
    let rest := skipBlanks deep false rest
    if rest.head?.any fun c => c == '+' || c == '-' then
      match kind, atom? fuel deep (skipBlanks deep false rest.tail) with
      | .real, some (.imaginary, rest) | .signed, some (.imaginary, rest) =>
        return (.plain, skipBlanks deep false rest)
      | _, _ => none
    else return (kind, rest)

/-- Reads a number, a text, a constant or values in brackets. -/
def atom? (fuel : Nat) (deep : Bool) (cs : List Char) : Option (ValueKind × List Char) :=
  match fuel, cs with
  | 0, _ | _, [] => none
  | fuel + 1, c :: rest =>
    if c == '(' then
      match values? fuel true rest with
      | some (kinds, comma, ')' :: rest) =>
        match kinds, comma with
        | [kind], false => some (kind, rest)
        | _, _ => some (tuple kinds, rest)
      | _ => none
    else if c == '\x7b' then
      match entries? fuel rest with
      | some (keys, '\x7d' :: rest) => if keys.contains keyless then none else some (keyless, rest)
      | _ => none
    else if c.isDigit || (c == '.' && rest.head?.any Char.isDigit) then
      let number := numberChars cs
      (ofNumber? number).map (·, cs.drop number.length)
    else if "...".toList.isPrefixOf cs then some (plain, cs.drop 3)
    else
      let word := cs.takeWhile isWord
      let after := cs.drop word.length
      if after.head?.any fun c => c == '\'' || c == '"' then do
        let (kind, rest) ← quoted? word after
        texts? fuel deep kind rest
      else if ["True", "False", "None"].contains (String.ofList word) then some (plain, after)
      else if word = "set".toList then
        match skipBlanks deep false after with
        | '(' :: rest =>
          match skipBlanks true false rest with
          | ')' :: rest => some (keyless, rest)
          | _ => none
        | _ => none
      else none

/-- Reads the texts that follow a text: they are joined to it. -/
def texts? (fuel : Nat) (deep : Bool) (kind : ValueKind) (cs : List Char) :
    Option (ValueKind × List Char) :=
  match fuel with
  | 0 => none
  | fuel + 1 =>
    let cs := skipBlanks deep false cs
    let word := cs.takeWhile isWord
    let after := cs.drop word.length
    if after.head?.any fun c => c == '\'' || c == '"' then do
      let (next, rest) ← quoted? word after
      if next = kind then texts? fuel deep kind rest else none
    else some (kind, cs)

/-- Reads values between commas, and whether a comma stands after one of them. -/
def values? (fuel : Nat) (deep : Bool) (cs : List Char) :
    Option (List ValueKind × Bool × List Char) :=
  match fuel with
  | 0 => none
  | fuel + 1 =>
    let cs := skipBlanks deep false cs
    if cs.isEmpty || cs.head? == some ')' then some ([], false, cs)
    else do
      let (kind, rest) ← value? fuel deep cs
      match rest with
      | ',' :: rest => do
        let (kinds, _, rest) ← values? fuel deep rest
        return (kind :: kinds, true, rest)
      | _ => return ([kind], false, rest)

/-- Reads the entries of a set or a mapping, and gives its members or keys. -/
def entries? (fuel : Nat) (cs : List Char) : Option (List ValueKind × List Char) :=
  match fuel with
  | 0 => none
  | fuel + 1 =>
    let cs := skipBlanks true false cs
    if cs.head? == some '\x7d' then some ([], cs)
    else do
      let (key, rest) ← value? fuel true cs
      match rest with
      | ':' :: rest => do
        let (_, rest) ← value? fuel true rest
        pairs? fuel [key] rest
      | _ => members? fuel [key] rest

def members? (fuel : Nat) (keys : List ValueKind) (cs : List Char) :
    Option (List ValueKind × List Char) :=
  match fuel, cs with
  | 0, _ => none
  | fuel + 1, ',' :: rest =>
    let rest := skipBlanks true false rest
    if rest.head? == some '\x7d' then some (keys, rest)
    else do
      let (key, rest) ← value? fuel true rest
      members? fuel (key :: keys) rest
  | _, _ => some (keys, cs)

def pairs? (fuel : Nat) (keys : List ValueKind) (cs : List Char) :
    Option (List ValueKind × List Char) :=
  match fuel, cs with
  | 0, _ => none
  | fuel + 1, ',' :: rest =>
    let rest := skipBlanks true false rest
    if rest.head? == some '\x7d' then some (keys, rest)
    else do
      let (key, rest) ← value? fuel true rest
      match rest with
      | ':' :: rest => do
        let (_, rest) ← value? fuel true rest
        pairs? fuel (key :: keys) rest
      | _ => none
  | _, _ => some (keys, cs)

end

end ValueKind

/-- A text is a value, or some values between commas. -/
def isValue (cs : List Char) : Bool :=
  match ValueKind.values? (8 * cs.length + 8) false (ValueKind.skipBlanks true false cs) with
  | some (kinds, _, rest) =>
    !kinds.isEmpty && (ValueKind.skipBlanks true false rest).isEmpty
  | none => false

/-- An argument of an action can be read: a handler, perhaps with values in brackets, or a value. -/
def isActionArgument (argument : List Char) : Bool :=
  let name := argument.takeWhile fun c => isWord c || c == '.'
  let call := argument.drop name.length
  call.isEmpty || (if call.head? == some '(' && call.getLast? == some ')' && !call.contains '\n'
    then isValue call else isValue argument)

end DocScript.Console
