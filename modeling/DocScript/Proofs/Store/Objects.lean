import DocScript.Script.Basic

/-!
# What a script builds

The instructions for elements are run on a store of objects. Each object keeps the expression that
made it and a record of what was done to it, in order. A variable holds one object at a time, and
giving it a value makes a new object. A tree is what an object looks like from outside, with the
objects that it refers to in place of references.
-/

namespace DocScript

/-- An entry of a record: a member was set to a value or to an object, a namespace was declared, or
a child was appended. -/
inductive Entry (α : Type) where
  | member (name : String) (value : Expr)
  | part (name : String) (object : α)
  | space (short uri : String)
  | child (object : α)

def Entry.object? {α : Type} : Entry α → Option α
  | part _ a | child a => some a
  | _ => none

/-- An object: the expression that made it and what was recorded on it. -/
structure Thing where
  made : Expr
  log : List (Entry Nat)

inductive Tree where
  | node (made : Expr) (log : List (Entry Tree))

/-- Objects, and the variables that hold some of them. -/
structure Store where
  env : String → Option Nat
  things : List Thing

namespace Store

def empty : Store := ⟨fun _ => none, []⟩

def bind (name : String) (made : Expr) (s : Store) : Store :=
  ⟨fun x => if x = name then some s.things.length else s.env x, s.things ++ [⟨made, []⟩]⟩

def record (o : Nat) (e : Entry Nat) (s : Store) : Store :=
  ⟨s.env, s.things.modify o fun t => ⟨t.made, t.log ++ [e]⟩⟩

def invoked (call : Call) (s : Store) : Option Store :=
  match call.target, call.args with
  | some (.var owner), [.primitive (.str short), .primitive (.str uri)] =>
    if call.operation = "AddNamespaceDeclaration" then
      (s.env owner).map fun o => s.record o (.space short uri)
    else none
  | some (.var owner), [.var x] =>
    if call.operation = "Append" then
      (s.env owner).bind fun o => (s.env x).map fun i => s.record o (.child i)
    else none
  | _, _ => none

/-- Runs an instruction, if it is of a kind that elements are built by. -/
def exec : Instr → Store → Option Store
  | .declare name _ _ (some made), s => some (s.bind name made)
  | .assign (.var name) none made, s => some (s.bind name made)
  | .assign (.var owner) (some member) (.var x), s =>
    (s.env owner).bind fun o => (s.env x).map fun i => s.record o (.part member i)
  | .assign (.var owner) (some member) value, s =>
    (s.env owner).map fun o => s.record o (.member member value)
  | .invoke call, s => s.invoked call
  | .comment _, s | .blank, s => some s
  | _, _ => none

def run : List Instr → Store → Option Store
  | [], s => some s
  | i :: rest, s => (exec i s).bind (run rest)

def Attached (s : Store) (i : Nat) : Prop :=
  ∃ thing ∈ s.things, ∃ e ∈ thing.log, e.object? = some i

variable {s s' : Store} {owner x : String} {o i : Nat}

theorem run_append (is js : List Instr) (s : Store) :
    run (is ++ js) s = (run is s).bind (run js) := by
  induction is generalizing s with
  | nil => rfl
  | cons i rest ih =>
    rw [List.cons_append, run, run]
    cases exec i s with
    | none => rfl
    | some s' => exact ih s'

theorem run_append_of {is js : List Instr} (h : run is s = some s') :
    run (is ++ js) s = run js s' := by
  rw [run_append, h]
  rfl

theorem run_cons_of {i : Instr} {rest : List Instr} (h : exec i s = some s') :
    run (i :: rest) s = run rest s' := by
  rw [run, h]
  rfl

theorem exec_set {member : String} {value : Expr} (plain : ∀ x, value ≠ .var x)
    (held : s.env owner = some o) :
    exec (.set owner member value) s = some (s.record o (.member member value)) := by
  cases value with
  | var x => exact (plain x rfl).elim
  | _ => simp [Instr.set, exec, held]

theorem exec_set_var {member : String} (held : s.env owner = some o) (value : s.env x = some i) :
    exec (.set owner member (.var x)) s = some (s.record o (.part member i)) := by
  simp [Instr.set, exec, held, value]

theorem exec_space {short uri : String} (held : s.env owner = some o) :
    exec (.invokeOn (some (.var owner)) "AddNamespaceDeclaration" [.text short, .text uri]) s =
      some (s.record o (.space short uri)) := by
  simp [Instr.invokeOn, exec, invoked, Expr.text, held]

theorem exec_append (held : s.env owner = some o) (child : s.env x = some i) :
    exec (.invokeOn (some (.var owner)) "Append" [.var x]) s = some (s.record o (.child i)) := by
  simp [Instr.invokeOn, exec, invoked, held, child]

/-! ### Records -/

def recordAll (o : Nat) (es : List (Entry Nat)) (s : Store) : Store :=
  es.foldl (fun s e => s.record o e) s

@[simp] theorem env_recordAll (o : Nat) (es : List (Entry Nat)) (s : Store) :
    (s.recordAll o es).env = s.env := by
  induction es generalizing s with
  | nil => rfl
  | cons e rest ih => exact ih (s.record o e)

theorem recordAll_append (o : Nat) (es fs : List (Entry Nat)) (s : Store) :
    s.recordAll o (es ++ fs) = (s.recordAll o es).recordAll o fs := List.foldl_append

theorem modify_middle (before after : List Thing) (t : Thing) (f : Thing → Thing) :
    (before ++ t :: after).modify before.length f = before ++ f t :: after := by
  induction before with
  | nil => rfl
  | cons first rest ih =>
    rw [List.cons_append, List.length_cons, List.modify_succ_cons, ih]
    rfl

/-- The entries are added at the end of the record of the object. -/
theorem things_recordAll {made : Expr} {before after : List Thing} {log : List (Entry Nat)}
    (es : List (Entry Nat)) (place : o = before.length)
    (things : s.things = before ++ ⟨made, log⟩ :: after) :
    (s.recordAll o es).things = before ++ ⟨made, log ++ es⟩ :: after := by
  induction es generalizing s log with
  | nil =>
    rw [List.append_nil]
    exact things
  | cons e rest ih =>
    have first : (s.record o e).things = before ++ ⟨made, log ++ [e]⟩ :: after := by
      rw [record, things, place]
      exact modify_middle before after _ _
    have others := ih first
    rw [List.append_assoc, List.singleton_append] at others
    exact others

theorem recordAll_eq {made : Expr} {before after : List Thing} {log : List (Entry Nat)}
    (es : List (Entry Nat)) (place : o = before.length)
    (things : s.things = before ++ ⟨made, log⟩ :: after) :
    s.recordAll o es = ⟨s.env, before ++ ⟨made, log ++ es⟩ :: after⟩ := by
  rw [← things_recordAll es place things, ← env_recordAll o es s]

/-! ### Trees -/

mutual

def Unfolds (things : List Thing) : Tree → Nat → Prop
  | .node made log, i => ∃ record, things[i]? = some ⟨made, record⟩ ∧ UnfoldsAll things log record

/-- The entries of a record look like those of a tree. -/
def UnfoldsAll (things : List Thing) : List (Entry Tree) → List (Entry Nat) → Prop
  | [], record => record = []
  | e :: rest, record =>
    ∃ x others, record = x :: others ∧ UnfoldsEntry things e x ∧ UnfoldsAll things rest others

def UnfoldsEntry (things : List Thing) : Entry Tree → Entry Nat → Prop
  | .member name value, x => x = .member name value
  | .part name t, x => ∃ i, x = .part name i ∧ Unfolds things t i
  | .space short uri, x => x = .space short uri
  | .child t, x => ∃ i, x = .child i ∧ Unfolds things t i

end

variable {things more : List Thing}

mutual

theorem Unfolds.unique : ∀ {t t' : Tree} {i : Nat}, Unfolds things t i → Unfolds things t' i → t = t'
  | .node made log, .node made' log', i, h, h' => by
    rw [Unfolds] at h h'
    obtain ⟨record, found, entries⟩ := h
    obtain ⟨record', found', entries'⟩ := h'
    obtain ⟨rfl, rfl⟩ := Thing.mk.inj (Option.some.inj (found.symm.trans found'))
    rw [UnfoldsAll.unique entries entries']

theorem UnfoldsAll.unique : ∀ {es es' : List (Entry Tree)} {record : List (Entry Nat)},
    UnfoldsAll things es record → UnfoldsAll things es' record → es = es'
  | [], [], _, _, _ => rfl
  | [], e :: rest, record, h, h' => by
    simp only [UnfoldsAll] at h h'
    obtain ⟨x, others, rfl, _⟩ := h'
    cases h
  | e :: rest, [], record, h, h' => by
    simp only [UnfoldsAll] at h h'
    obtain ⟨x, others, rfl, _⟩ := h
    cases h'
  | e :: rest, e' :: rest', record, h, h' => by
    simp only [UnfoldsAll] at h h'
    obtain ⟨x, others, rfl, first, h⟩ := h
    obtain ⟨x', others', same, first', h'⟩ := h'
    obtain ⟨rfl, rfl⟩ := List.cons.inj same
    rw [UnfoldsEntry.unique first first', UnfoldsAll.unique h h']

theorem UnfoldsEntry.unique : ∀ {e e' : Entry Tree} {x : Entry Nat},
    UnfoldsEntry things e x → UnfoldsEntry things e' x → e = e'
  | .member .., e', x, h, h' => by
    rw [UnfoldsEntry] at h
    subst h
    cases e' <;> simp_all [UnfoldsEntry]
  | .space .., e', x, h, h' => by
    rw [UnfoldsEntry] at h
    subst h
    cases e' <;> simp_all [UnfoldsEntry]
  | .part name t, e', x, h, h' => by
    rw [UnfoldsEntry] at h
    obtain ⟨i, rfl, tree⟩ := h
    cases e' with
    | part name' t' =>
      rw [UnfoldsEntry] at h'
      obtain ⟨i', same, tree'⟩ := h'
      obtain ⟨rfl, rfl⟩ := Entry.part.inj same
      rw [Unfolds.unique tree tree']
    | _ => simp [UnfoldsEntry] at h'
  | .child t, e', x, h, h' => by
    rw [UnfoldsEntry] at h
    obtain ⟨i, rfl, tree⟩ := h
    cases e' with
    | child t' =>
      rw [UnfoldsEntry] at h'
      obtain ⟨i', same, tree'⟩ := h'
      obtain rfl := Entry.child.inj same
      rw [Unfolds.unique tree tree']
    | _ => simp [UnfoldsEntry] at h'

end

theorem unfoldsAll_append {es fs : List (Entry Tree)} {xs ys : List (Entry Nat)}
    (first : UnfoldsAll things es xs) (second : UnfoldsAll things fs ys) :
    UnfoldsAll things (es ++ fs) (xs ++ ys) := by
  induction es generalizing xs with
  | nil =>
    rw [UnfoldsAll] at first
    subst first
    exact second
  | cons e rest ih =>
    rw [UnfoldsAll] at first
    obtain ⟨x, others, rfl, entry, first⟩ := first
    rw [List.cons_append, UnfoldsAll]
    exact ⟨x, others ++ ys, rfl, entry, ih first⟩

end Store

end DocScript
