import DocScript.Text.Blank
import DocScript.Text.Quoted

/-!
# Addresses

An address is absolute if it starts with a scheme. What follows the scheme may name a host; a host
in brackets has to be an IPv6 address or to announce a later version, and a host must not contain
characters that only look like delimiters.

Revisions of the rules for splitting an address differ over a host in brackets: the first ones let
any text stand before and after it. This is a later one, where nothing may stand between the user
and the opening bracket, and only a port after the closing one.
-/

namespace DocScript.Uri

inductive Fault where
  | badBrackets
  | badFuture
  | notAnAddress (host : String)
  | version4
  | lookalike (host : String)
  deriving DecidableEq, Repr

def Fault.message : Fault → String
  | badBrackets => "Invalid IPv6 URL"
  | badFuture => "IPvFuture address is invalid"
  | notAnAddress host => s!"{Text.quoted host} does not appear to be an IPv4 or IPv6 address"
  | version4 => "An IPv4 address cannot be in brackets"
  | lookalike host => s!"netloc '{host}' contains invalid characters under NFKC normalization"

/-- Divides characters at each occurrence of a separator. -/
def splitOn (separator : Char) : List Char → List (List Char)
  | [] => [[]]
  | c :: rest =>
    if c == separator then [] :: splitOn separator rest
    else
      match splitOn separator rest with
      | [] => [[c]]
      | first :: more => (c :: first) :: more

def isHexDigit (c : Char) : Bool :=
  c.isDigit || ('a' ≤ c && c ≤ 'f') || ('A' ≤ c && c ≤ 'F')

/-- A number from 0 to 255 without leading zeros. -/
def isOctet (cs : List Char) : Bool :=
  !cs.isEmpty && cs.all Char.isDigit && cs.length ≤ 3 && (cs == ['0'] || cs.head? != some '0')
    && cs.foldl (fun n c => 10 * n + (c.toNat - 48)) 0 ≤ 255

def isVersion4 (cs : List Char) : Bool :=
  let octets := splitOn '.' cs
  octets.length == 4 && octets.all isOctet

def isHextet (cs : List Char) : Bool := !cs.isEmpty && cs.all isHexDigit && cs.length ≤ 4

/-- The groups on both sides of a gap: each side is empty or consists of hextets. The outer end of
a side that is empty altogether is written as one empty group. -/
def isSide (groups : List (List Char)) : Bool := groups == [[]] || groups.all isHextet

/-- An IPv6 address without a zone: eight groups, or fewer with one gap. An IPv4 address at the end
takes the place of two groups. -/
def isPlainVersion6 (cs : List Char) : Bool :=
  let groups := splitOn ':' cs
  let tail := groups.getLast?.getD []
  let dotted := tail.contains '.'
  let groups := if dotted then groups.dropLast ++ [['0'], ['0']] else groups
  let inner := (groups.drop 1).dropLast
  if (dotted && !isVersion4 tail) || groups.length < 3 || groups.length > 9 then false
  else if inner.any List.isEmpty then
    let before := groups.take (1 + (inner.takeWhile (!·.isEmpty)).length)
    let after := groups.drop (before.length + 1)
    let count (side : List (List Char)) : Nat := (side.filter (!·.isEmpty)).length
    isSide before && isSide after && count before + count after < 8
  else
    groups.length == 8 && groups.all isHextet

/-- An IPv6 address, with a zone after a percent sign or without. -/
def isVersion6 (cs : List Char) : Bool :=
  match splitOn '%' cs with
  | [plain] => isPlainVersion6 plain
  | [plain, zone] => !zone.isEmpty && isPlainVersion6 plain
  | _ => false

/-- A host of a later version: `v`, digits of base 16, a point and something more. -/
def isFuture (cs : List Char) : Bool :=
  match cs with
  | 'v' :: rest =>
    let version := rest.takeWhile isHexDigit
    let more := rest.dropWhile isHexDigit
    !version.isEmpty && more.head? == some '.' && more.length > 1
  | _ => false

def checkHost (host : List Char) : Except Fault Unit :=
  if host.head? == some 'v' then if isFuture host then .ok () else .error .badFuture
  else if isVersion4 host then .error .version4
  else if isVersion6 host then .ok ()
  else .error (.notAnAddress (String.ofList host))

/-- Characters whose compatibility form contains a delimiter. -/
def lookalikes : List Nat :=
  [0x2047, 0x2048, 0x2049, 0x2100, 0x2101, 0x2105, 0x2106, 0x2A74, 0xFE13, 0xFE16, 0xFE55, 0xFE56,
    0xFE5F, 0xFE6B, 0xFF03, 0xFF0F, 0xFF1A, 0xFF1F, 0xFF20]

/-- What follows the last occurrence of a character, or everything. -/
def afterLast (c : Char) (cs : List Char) : List Char := (cs.reverse.takeWhile (· != c)).reverse

/-- Checks the brackets of an authority: the user, the host and the port. -/
def checkBrackets (authority : List Char) : Except Fault Unit :=
  let opens := authority.contains '['
  let closes := authority.contains ']'
  if opens != closes then .error .badBrackets
  else if !opens then .ok ()
  else
    let place := afterLast '@' authority
    if place.contains '[' then
      let bracketed := (place.dropWhile (· != '[')).drop 1
      let port := (bracketed.dropWhile (· != ']')).drop 1
      if place.head? != some '[' then .error .badBrackets
      else if !port.isEmpty && port.head? != some ':' then .error .badBrackets
      else checkHost (bracketed.takeWhile (· != ']'))
    else
      checkHost (place.takeWhile (· != ':'))

def checkAuthority (authority : List Char) : Except Fault Unit := do
  checkBrackets authority
  if authority.any fun c => lookalikes.contains c.toNat then
    .error (.lookalike (String.ofList authority))
  else .ok ()

def isAsciiLetter (c : Char) : Bool := ('a' ≤ c && c ≤ 'z') || ('A' ≤ c && c ≤ 'Z')

def isSchemeChar (c : Char) : Bool :=
  isAsciiLetter c || c.isDigit || c == '+' || c == '-' || c == '.'

/-- An address as it is looked at: without control characters and spaces at its start and without
tabs and line ends anywhere. -/
def cleaned (uri : String) : List Char :=
  (uri.toList.dropWhile fun c => c.toNat ≤ 0x20).filter fun c =>
    c != '\t' && c != '\r' && c != '\n'

/-- What follows the scheme and its colon, if there is a scheme. -/
def afterScheme? (cs : List Char) : Option (List Char) :=
  let scheme := cs.takeWhile (· != ':')
  let rest := cs.dropWhile (· != ':')
  if !rest.isEmpty && scheme.head?.any isAsciiLetter && scheme.all isSchemeChar then
    some (rest.drop 1)
  else
    none

/-- The address starts with a scheme; it fails where its authority is malformed. -/
def isAbsolute (uri : String) : Except Fault Bool := do
  let cs := cleaned uri
  let scheme := afterScheme? cs
  match scheme.getD cs with
  | '/' :: '/' :: rest =>
    checkAuthority (rest.takeWhile fun c => c != '/' && c != '?' && c != '#')
  | _ => .ok ()
  return scheme.isSome

end DocScript.Uri
