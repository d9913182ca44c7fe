import DocScript.OrderedMap
import DocScript.Toml.Scan

/-!
# Documents under construction

A draft is what the statements so far have built. A path that has been declared cannot be declared
again; what has been written as a list or an inline table is closed to further entries. Tables that
a dotted key passes through count as declared from the next header on.
-/

namespace DocScript.Toml

/-- Changes the table behind a path. Missing tables are made on the way; a list stands for its
last item, unless `intoLists` is false. -/
def change (intoLists : Bool) (f : Entries → Except Cause Entries) :
    Path → Entries → Except Cause Entries
  | [], t => f t
  | k :: path, t =>
    match lookupEntry k t with
    | none => (change intoLists f path []).map fun u => insertEntry k (.table u) t
    | some (.table u) => (change intoLists f path u).map fun u => insertEntry k (.table u) t
    | some (.list items) =>
      match intoLists, items.getLast? with
      | true, some (.table u) =>
        (change intoLists f path u).map fun u =>
          insertEntry k (.list (items.dropLast ++ [.table u])) t
      | _, _ => .error .overwritten
    | some _ => .error .overwritten

def addNew (k : String) (v : Value) (twice : Cause) (t : Entries) : Except Cause Entries :=
  match lookupEntry k t with
  | none => .ok (insertEntry k v t)
  | some _ => .error twice

/-- Adds a table to the list of tables behind a key. -/
def addTable (k : String) (t : Entries) : Except Cause Entries :=
  match lookupEntry k t with
  | none => .ok (insertEntry k (.list [.table []]) t)
  | some (.list items) => .ok (insertEntry k (.list (items ++ [.table []])) t)
  | some _ => .error .overwritten

def stem (path : Path) : String := path.getLastD ""

def coveredBy (paths : List Path) (path : Path) : Bool := paths.any (·.isPrefixOf path)

/-- Adds an entry to an inline table, where the paths in `closed` hold lists and tables. -/
def addInline (closed : List Path) (path : Path) (v : Value) (t : Entries) :
    Except Cause Entries :=
  if coveredBy closed path then .error (.closed path)
  else change false (addNew (stem path) v (.duplicateKey (stem path))) path.dropLast t

structure Draft where
  root : Entries
  /-- Tables that no header may open again. -/
  declared : List Path
  /-- Tables that will be declared at the next header. -/
  pending : List Path
  /-- Values that no key may reach into. -/
  closed : List Path
  /-- The table that entries go to. -/
  header : Path

namespace Draft

def start : Draft := ⟨[], [], [], [], []⟩

def settle (d : Draft) : Draft := { d with declared := d.pending ++ d.declared, pending := [] }

def openTable (d : Draft) (path : Path) : Except Cause Draft :=
  if d.declared.contains path || coveredBy d.closed path then .error (.declaredTwice path)
  else do
    let root ← change true .ok path d.root
    return { d with root, declared := path :: d.declared, header := path }

/-- Opens a new table at the end of a list of tables. What was known of its predecessor does not
hold for it. -/
def openListed (d : Draft) (path : Path) : Except Cause Draft :=
  if coveredBy d.closed path then .error (.closed path)
  else do
    let outside (p : Path) : Bool := !path.isPrefixOf p
    let root ← change true (addTable (stem path)) path.dropLast d.root
    return { d with
      root, declared := path :: d.declared.filter outside, closed := d.closed.filter outside,
      header := path }

def passed (d : Draft) (path : Path) : List Path :=
  (List.range (path.length - 1)).map fun i => d.header ++ path.take (i + 1)

def add (d : Draft) (path : Path) (v : Value) : Except Cause Draft :=
  let parent := d.header ++ path.dropLast
  match (d.passed path).find? d.declared.contains with
  | some p => .error (.redefined p)
  | none =>
    if coveredBy d.closed parent then .error (.closed parent)
    else do
      let root ← change true (addNew (stem path) v .overwritten) parent d.root
      return { d with
        root, pending := d.passed path ++ d.pending,
        closed := if v.isScalar then d.closed else (d.header ++ path) :: d.closed }

end Draft

end DocScript.Toml
