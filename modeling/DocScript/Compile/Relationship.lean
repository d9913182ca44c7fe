import DocScript.Compile.Context

/-!
# Relationships as instructions

Every hyperlink and every external relationship of a part or package becomes one call on it, in
the given order.
-/

namespace DocScript.Compile

def uriType : TypeId := .plain "System" "Uri"

def uriKindType : TypeId := .plain "System" "UriKind"

def uriExpr (policy : NamePolicy) (uri : String) : Step Namespaces Expr := do
  Step.change (·.addPlain uriType.space)
  match Uri.isAbsolute uri with
  | .error fault => Step.fail (.address fault)
  | .ok isAbsolute =>
    let typeName ← Step.read (·.typeName policy uriType)
    let kindName ← Step.read (·.typeName policy uriKindType)
    let kind := if isAbsolute then "Absolute" else "Relative"
    return .construct typeName [] [.text uri, .constant kindName kind]

def hyperlink (policy : NamePolicy) (owner : Expr) (h : Hyperlink) :
    Step Namespaces (List Instr) := do
  let uri ← uriExpr policy h.uri
  return [.invokeOn (some owner) "AddHyperlinkRelationship" [uri, .truth h.isExternal, .text h.id]]

def externalLink (policy : NamePolicy) (owner : Expr) (e : ExternalLink) :
    Step Namespaces (List Instr) := do
  let uri ← uriExpr policy e.uri
  return [.invokeOn (some owner) "AddExternalRelationship" [.text e.type, uri, .text e.id]]

/-- A blank line and the instructions for some relationships, or nothing if there are none. -/
def group {α : Type} (f : α → Step Namespaces (List Instr)) (links : List α) :
    Step Namespaces (List Instr) :=
  if links.isEmpty then pure []
  else do
    let calls ← Step.collect f links
    return .blank :: calls

/-- Adds all hyperlinks and then all external relationships to their owner. -/
def relationships (policy : NamePolicy) (owner : String) (hyperlinks : List Hyperlink)
    (externals : List ExternalLink) : Step Namespaces (List Instr) := do
  let calls ← group (hyperlink policy (.var owner)) hyperlinks
  let more ← group (externalLink policy (.var owner)) externals
  return calls ++ more

end DocScript.Compile
