import DocScript.Toml.Draft
import DocScript.Toml.Number
import DocScript.Toml.Text
import DocScript.Toml.Timestamp

/-!
# Reading TOML

A document is a sequence of statements, one a line: a header in brackets, or a key with a value. A
carriage return in front of the end of a line does not count.
-/

namespace DocScript.Toml

namespace Scan

/-- Gives what a step that may fail gives, and stops at the present place otherwise. -/
def ofExcept {α : Type} : Except Cause α → Scan α
  | .ok a => return a
  | .error cause => stop cause

/-- Reads a value without parts that stands between no quotes. -/
def bare : Scan Value := do
  if ← skip? "true" then return .truth true
  else if ← skip? "false" then return .truth false
  else
    let cs ← rest
    match (timestamp? cs).or (number? cs) with
    | none => stop .value
    | some (result, rest) =>
      let v ← ofExcept result
      set rest
      return v

mutual

def value : (fuel : Nat) → Scan Value
  | 0 => stop .value
  | fuel + 1 => do
    match ← text? true with
    | some s => return .text s
    | none =>
      if ← skip? "[" then
        layout
        if ← skip? "]" then return .list []
        else return .list (← items fuel)
      else if ← skip? "\x7b" then
        skipBlanks
        if ← skip? "\x7d" then return .table []
        else return .table (← entries fuel [] [])
      else bare

/-- Reads the items of a list up to its end; a comma may stand behind the last one. -/
def items : (fuel : Nat) → Scan (List Value)
  | 0 => stop .listEnd
  | fuel + 1 => do
    let v ← value fuel
    layout
    if ← skip? "]" then return [v]
    else if ← skip? "," then
      layout
      if ← skip? "]" then return [v]
      else return v :: (← items fuel)
    else stop .listEnd

/-- Reads the entries of an inline table up to its end; the paths in `closed` hold lists and
tables. -/
def entries : (fuel : Nat) → List Path → Entries → Scan Entries
  | 0, _, _ => stop .inlineTableEnd
  | fuel + 1, closed, t => do
    let (path, v) ← entry fuel
    let t ← ofExcept (addInline closed path v t)
    skipBlanks
    if ← skip? "\x7d" then return t
    else if ← skip? "," then
      skipBlanks
      entries fuel (if v.isScalar then closed else path :: closed) t
    else stop .inlineTableEnd

def entry : (fuel : Nat) → Scan (Path × Value)
  | 0 => stop .keyStart
  | fuel + 1 => do
    let path ← keys
    if ← skip? "=" then
      skipBlanks
      return (path, ← value fuel)
    else stop .equalsSign

end

/-- Reads a header with the brackets `left` and `right` and opens its table. -/
def header (left right : String) (unclosed : Cause) (openAt : Path → Except Cause Draft) :
    Scan Draft := do
  skip left.length
  skipBlanks
  let path ← keys
  let d ← ofExcept (openAt path)
  if ← skip? right then return d else stop unclosed

def statement (d : Draft) : Scan Draft := do
  match ← peek? with
  | none => return d
  | some c =>
    if startsKey c then
      let (path, v) ← entry (3 * (← rest).length + 3)
      ofExcept (d.add path v)
    else if ← isAt "[[" then header "[[" "]]" .tableListEnd d.settle.openListed
    else if ← isAt "[" then header "[" "]" .tableEnd d.settle.openTable
    else if c == '#' || c == '\n' then return d
    else stop .statement

/-- Reads statements, at most `fuel`, to the end of the text. -/
def statements : (fuel : Nat) → Draft → Scan Draft
  | 0, d => return d
  | fuel + 1, d => do
    skipBlanks
    let d ← statement d
    skipBlanks
    skipComment
    match ← peek? with
    | none => return d
    | some c =>
      if c == '\n' then
        skip 1
        statements fuel d
      else stop .lineEnd

end Scan

structure Fault where
  cause : Cause
  place : Place
  deriving DecidableEq, Repr

def Fault.message (f : Fault) : String :=
  match f.cause with
  | .tooManyDigits _ => f.cause.text
  | _ => f.cause.text ++ " (at " ++ f.place.text ++ ")"

def plainLines : List Char → List Char
  | '\r' :: '\n' :: rest => '\n' :: plainLines rest
  | c :: rest => c :: plainLines rest
  | [] => []

def read (s : String) : Except Fault Entries :=
  let cs := plainLines s.toList
  match (Scan.statements (cs.length + 1) .start).run cs with
  | .ok (d, _) => .ok d.root
  | .error f => .error ⟨f.cause, .after (cs.take (cs.length - f.left)) f.left⟩

end DocScript.Toml
