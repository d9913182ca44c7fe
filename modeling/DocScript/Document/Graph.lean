import DocScript.Document.Element

/-!
# Parts and packages

Parts form a graph: a part may be the target of several edges. A graph holds each part once, under
its own address, and an edge names its target by address.
-/

namespace DocScript

structure Edge where
  id : String
  target : String
  deriving DecidableEq, Repr

structure Hyperlink where
  id : String
  uri : String
  isExternal : Bool
  deriving DecidableEq, Repr

/-- A relationship to something outside of the package that is no hyperlink. -/
structure ExternalLink where
  id : String
  uri : String
  type : String
  deriving DecidableEq, Repr

/-- What a part consists of: nothing, an element tree or bytes. -/
inductive Content where
  | none
  | root (element : Element)
  | binary (bytes : List UInt8)

structure Part where
  uri : String
  type : TypeId
  contentType : Option String
  content : Content
  children : List Edge
  hyperlinks : List Hyperlink
  externals : List ExternalLink

structure Graph where
  parts : OrderedMap String Part
  keyed : ∀ e ∈ parts.entries, e.1 = e.2.uri

namespace Graph

def empty : Graph := ⟨.empty, by simp [OrderedMap.empty]⟩

instance : Inhabited Graph := ⟨empty⟩

theorem keyed_insertEntry {p : Part} {es : List (String × Part)}
    (h : ∀ e ∈ es, e.1 = e.2.uri) : ∀ e ∈ insertEntry p.uri p es, e.1 = e.2.uri := by
  induction es with
  | nil => simp [insertEntry]
  | cons e rest ih =>
    obtain ⟨k, q⟩ := e
    have hrest : ∀ e ∈ rest, e.1 = e.2.uri := fun e he => h e (List.mem_cons_of_mem _ he)
    by_cases hk : k = p.uri
    · subst hk
      simp only [insertEntry, if_true, List.mem_cons]
      rintro e (rfl | he)
      · rfl
      · exact hrest e he
    · simp only [insertEntry, hk, if_false, List.mem_cons]
      rintro e (rfl | he)
      · exact h _ (by simp)
      · exact ih hrest e he

/-- Adds a part; a part of the same address is replaced. -/
def add (g : Graph) (p : Part) : Graph := ⟨g.parts.insert p.uri p, keyed_insertEntry g.keyed⟩

def get? (g : Graph) (uri : String) : Option Part := g.parts.get? uri

end Graph

structure Package where
  type : TypeId
  graph : Graph
  children : List Edge
  hyperlinks : List Hyperlink
  externals : List ExternalLink

end DocScript
