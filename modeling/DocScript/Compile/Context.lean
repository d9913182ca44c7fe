import DocScript.Compile.Step
import DocScript.Document.Graph
import DocScript.Naming.Pool
import DocScript.Settings

/-!
# What a run works with

A run is given settings, a registry and handlers, and none of them changes. What changes are the
registered namespaces and whether the run has been cancelled; beside these the elements of one
routine share pools of names, and the parts of one graph share a tally and the blueprints of the
parts visited so far. A handler takes the place of the usual instructions for one type; a handler
that gives nothing leaves them as they are.
-/

namespace DocScript

structure Shared where
  namespaces : Namespaces
  cancelled : Bool
  deriving DecidableEq

def Shared.start (cancelled : Bool) : Shared := ⟨.empty, cancelled⟩

structure Workspace where
  shared : Shared
  pools : Pools
  deriving DecidableEq

/-- The instructions for an element and the variable that holds it; the name is empty for an
element that is skipped. -/
structure ElementOutput where
  instructions : List Instr
  name : String

/-- A part that has been visited, with the variable that holds it and the routine that fills it. -/
structure Blueprint where
  part : Part
  name : String
  routine : String

structure PartWork where
  shared : Shared
  tally : Tally
  blueprints : OrderedMap String Blueprint

/-- The work on a graph of which no part has been visited. -/
def PartWork.start (shared : Shared) : PartWork := ⟨shared, .empty, .empty⟩

/-- Takes the place of the usual instructions for an element. -/
abbrev ElementHandler := Element → Workspace → Option ElementOutput × Workspace

/-- Takes the place of the usual instructions for an edge from the named parent to a part, and of
the usual routine that fills a part. -/
structure PartHandler where
  edge : String → Edge → Part → Shared → Option (List Instr) × Shared
  routine : Blueprint → Shared → Option Routine × Shared

structure Handlers where
  elements : OrderedMap TypeId ElementHandler
  parts : OrderedMap TypeId PartHandler

namespace Handlers

def none : Handlers := ⟨.empty, .empty⟩

def size (h : Handlers) : Nat := h.elements.size + h.parts.size

end Handlers

structure Context where
  settings : Settings
  registry : Registry
  handlers : Handlers

def Context.create (settings : Option Settings) (registry : Option Registry)
    (handlers : Handlers) : Except Failure Context :=
  match settings, registry with
  | none, _ => .error (.unmet .settings)
  | some _, none => .error (.unmet .schema)
  | some s, some r => .ok ⟨s, r, handlers⟩

end DocScript
