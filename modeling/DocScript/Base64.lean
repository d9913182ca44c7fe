/-!
# Base64

Bytes as text in groups of four digits of six bits. There are two alphabets, which differ in the
last two digits. `encode` always pads to whole groups; `decode?` takes padded and unpadded text.
-/

namespace DocScript.Base64

structure Alphabet where
  digit62 : Char
  digit63 : Char
  deriving DecidableEq, Repr

def standard : Alphabet := ⟨'+', '/'⟩

/-- The alphabet that is safe in addresses and file names. -/
def urlSafe : Alphabet := ⟨'-', '_'⟩

def Alphabet.digit (a : Alphabet) (n : Nat) : Char :=
  if n < 26 then Char.ofNat (n + 65)
  else if n < 52 then Char.ofNat (n - 26 + 97)
  else if n < 62 then Char.ofNat (n - 52 + 48)
  else if n = 62 then a.digit62
  else a.digit63

def Alphabet.value? (a : Alphabet) (c : Char) : Option Nat :=
  let n := c.toNat
  if 65 ≤ n ∧ n ≤ 90 then some (n - 65)
  else if 97 ≤ n ∧ n ≤ 122 then some (n - 97 + 26)
  else if 48 ≤ n ∧ n ≤ 57 then some (n - 48 + 52)
  else if c = a.digit62 then some 62
  else if c = a.digit63 then some 63
  else none

def pad : Char := '='

def Alphabet.encodeChars (a : Alphabet) : List UInt8 → List Char
  | [] => []
  | [x] =>
    let x := x.toNat
    [a.digit (x / 4), a.digit (x % 4 * 16), pad, pad]
  | [x, y] =>
    let x := x.toNat
    let y := y.toNat
    [a.digit (x / 4), a.digit (x % 4 * 16 + y / 16), a.digit (y % 16 * 4), pad]
  | x :: y :: z :: rest =>
    let i := x.toNat
    let j := y.toNat
    let k := z.toNat
    a.digit (i / 4) :: a.digit (i % 4 * 16 + j / 16) :: a.digit (j % 16 * 4 + k / 64)
      :: a.digit (k % 64) :: a.encodeChars rest

def Alphabet.encode (a : Alphabet) (bytes : List UInt8) : String :=
  String.ofList (a.encodeChars bytes)

/-- The bytes that digit values spell. The unused bits of the last digit must be zero. -/
def ofSextets? : List Nat → Option (List UInt8)
  | [] => some []
  | [_] => none
  | [a, b] => if b % 16 = 0 then some [UInt8.ofNat (a * 4 + b / 16)] else none
  | [a, b, c] =>
    if c % 4 = 0 then
      some [UInt8.ofNat (a * 4 + b / 16), UInt8.ofNat (b % 16 * 16 + c / 4)]
    else none
  | a :: b :: c :: d :: rest => do
    let bytes ← ofSextets? rest
    return UInt8.ofNat (a * 4 + b / 16) :: UInt8.ofNat (b % 16 * 16 + c / 4)
      :: UInt8.ofNat (c % 4 * 64 + d) :: bytes

/-- The bytes of a text in one alphabet. Padding may be left out or cut short, but must not
exceed what fills the last group. -/
def Alphabet.decode? (a : Alphabet) (s : String) : Option (List UInt8) :=
  let (digits, padding) := s.toList.span (· != pad)
  if padding.all (· == pad) && padding.length ≤ (4 - digits.length % 4) % 4 then
    (digits.mapM a.value?).bind ofSextets?
  else
    none

/-- The bytes of a text in either alphabet, but not in a mixture of both. -/
def decode? (s : String) : Option (List UInt8) :=
  urlSafe.decode? s <|> standard.decode? s

end DocScript.Base64
