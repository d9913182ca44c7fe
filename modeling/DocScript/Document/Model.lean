import DocScript.Document.Graph
import DocScript.Schema.Spec

/-!
# Document models

A model is a schema with one thing to rebuild. The graph is needed where that is a part; elsewhere
it may be there and has no effect.
-/

namespace DocScript

inductive Target where
  | element (node : Element) (graph : Option Graph)
  | part (uri : String) (graph : Graph)
  | package (package : Package) (graph : Option Graph)

def Target.kind : Target → String
  | element _ _ => "element"
  | part _ _ => "part"
  | package _ _ => "package"

structure Model where
  schema : Schema
  target : Target

end DocScript
