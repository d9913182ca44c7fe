import DocScript.Base64
import DocScript.Compile.Element
import DocScript.Compile.Relationship

/-!
# Graphs as routines

The edges of a graph are followed depth-first from a part or a package. The first edge to a part
creates it and calls the routine that fills it; each further edge only attaches the variable. The
routines that fill the parts follow in the order of the first visits.
-/

namespace DocScript

abbrev Visit (α : Type) := Step PartWork α

namespace Visit

def checkCancelled : Visit Unit := fun w =>
  if w.shared.cancelled then (.error .cancelled, w) else (.ok (), w)

def onNamespaces {α : Type} (m : Step Namespaces α) : Visit α := fun w =>
  let (result, namespaces) := m w.shared.namespaces
  (result, { w with shared := { w.shared with namespaces } })

def onShared {α : Type} (f : Shared → α × Shared) : Visit α :=
  Step.act fun w =>
    let (a, shared) := f w.shared
    (a, { w with shared })

def register (ctx : Context) (t : TypeId) : Visit Unit :=
  onNamespaces (Step.change (·.register ctx.registry t))

def addPlain (space : String) : Visit Unit := onNamespaces (Step.change (·.addPlain space))

def typeName (ctx : Context) (t : TypeId) : Visit String :=
  Step.read fun w => w.shared.namespaces.typeName ctx.settings.policy t

def nextName (t : TypeId) : Visit String :=
  Step.act fun w =>
    let qualifier := Text.lower (w.shared.namespaces.aliasOf t.space)
    let (name, tally) := w.tally.next (Text.camelCase (qualifier ++ t.name)) t.fullName
    (name, { w with tally })

/-- Enters the blueprint of a part, which must have none. -/
def enter (b : Blueprint) : Visit Unit := fun w =>
  if w.blueprints.contains b.part.uri then (.error (.blueprintTwice b.part.uri), w)
  else (.ok (), { w with blueprints := w.blueprints.insert b.part.uri b })

/-- The instructions for elements that share names with nothing else. -/
def buildAlone {α : Type} (m : Build α) : Visit α := fun w =>
  let (result, workspace) := m ⟨w.shared, .empty⟩
  (result, { w with shared := workspace.shared })

end Visit

namespace Compile

/-- The parameter that stands for the part in a routine. -/
def partName : String := "part"

def packageName : String := "pkg"

def streamName : String := "stream"

/-- The routine that creates the parts of a package. -/
def createParts : String := "CreateParts"

def streamType : TypeId := .plain "System.IO" "Stream"

def memoryStreamType : TypeId := .plain "System.IO" "MemoryStream"

def convertType : TypeId := .plain "System" "Convert"

/-- The routine that fills the part in a variable. -/
def fillName (variableName : String) : String := "Generate" ++ Text.pascalCase variableName

/-- The operation of a type of containers that adds parts of a type. -/
def addOperation? (r : Registry) (parent child : TypeId) : Option AddOperation :=
  let additions :=
    match r.part? parent, r.package? parent with
    | some p, _ => p.additions
    | none, some p => p.additions
    | none, none => []
  additions.find? (·.child = child)

/-- Creates a part in a new variable, below its parent. -/
def partCreation (ctx : Context) (parent : String) (parentType : TypeId) (edge : Edge)
    (part : Part) (name : String) : Visit (List Instr) := do
  let typeName ← Visit.typeName ctx part.type
  let id := Expr.text edge.id
  let parentExpr := Expr.var parent
  match addOperation? ctx.registry parentType part.type with
  | none =>
    return [.declare name typeName [] (some (.call (some parentExpr) "AddNewPart" [typeName] [id]))]
  | some op =>
    let contentType := if op.takesContentType then [.text (part.contentType.getD "")] else []
    let relationship := if op.takesRelationshipId then [id] else []
    let call := Expr.call (some parentExpr) op.operation [] (contentType ++ relationship)
    let rename := Instr.invokeOn (some parentExpr) "ChangeIdOfPart" [.var name, id]
    return .declare name typeName [] (some call) :: if op.takesRelationshipId then [] else [rename]

def links (ctx : Context) (owner : String) (hyperlinks : List Hyperlink)
    (externals : List ExternalLink) : Visit (List Instr) :=
  Visit.onNamespaces (relationships ctx.settings.policy owner hyperlinks externals)

/-- Calls the routine that fills the part in a variable. -/
def fillCall (name routine : String) : Instr := .invokeOn none routine [.byRef name]

/-- What the handler of a part gives for an edge, if it gives any instructions. -/
def handledEdge (ctx : Context) (parent : String) (edge : Edge) (part : Part) :
    Visit (Option (List Instr)) :=
  match ctx.handlers.parts.get? part.type with
  | none => pure none
  | some handler =>
    Visit.onShared fun s =>
      let (given, s) := handler.edge parent edge part s
      (given.filter (!·.isEmpty), s)

/-- Creates a part that is visited for the first time, without what hangs on it. -/
def newPart (ctx : Context) (parent : String) (parentType : TypeId) (edge : Edge) (part : Part) :
    Visit (List Instr × String) := do
  Visit.register ctx part.type
  let name ← Visit.nextName part.type
  let creation ← partCreation ctx parent parentType edge part name
  Visit.enter ⟨part, name, fillName name⟩
  let relations ← links ctx name part.hyperlinks part.externals
  return (creation ++ fillCall name (fillName name) :: relations ++ [.blank], name)

/-- The instructions for an edge of the container in a variable and all that hangs on it. Each
level of recursion follows the first visit of a part, so `fuel` beyond the number of parts is never
used up. The limit that an interpreter sets on recursion is left out. -/
def edge (ctx : Context) (graph : Graph) :
    (fuel : Nat) → (parent : String) → (parentType : TypeId) → Edge → Visit (List Instr)
  | 0, _, _, _ => pure []
  | fuel + 1, parent, parentType, e => do
    Visit.checkCancelled
    match graph.get? e.target with
    | none => Step.fail (.unmet (.edgeTarget e.id e.target))
    | some part =>
      match ← handledEdge ctx parent e part with
      | some given => return given
      | none =>
        match ← Step.read (·.blueprints.get? part.uri) with
        | some b => return [.invokeOn (some (.var parent)) "AddPart" [.var b.name, .text e.id]]
        | none =>
          let (creation, name) ← newPart ctx parent parentType e part
          let below ← Step.collect (edge ctx graph fuel name part.type) part.children
          return creation ++ below

def depthBound (graph : Graph) : Nat := graph.parts.size + 1

/-- The instructions for some edges of the container in a variable. -/
def edges (ctx : Context) (graph : Graph) (parent : String) (parentType : TypeId)
    (children : List Edge) : Visit (List Instr) :=
  Step.collect (edge ctx graph (depthBound graph) parent parentType) children

def payloadFeed (ctx : Context) (bytes : List UInt8) : Visit (List Instr) := do
  Visit.addPlain convertType.space
  Visit.addPlain streamType.space
  let convert ← Visit.typeName ctx convertType
  let stream ← Visit.typeName ctx streamType
  let memory ← Visit.typeName ctx memoryStreamType
  let decoded := Expr.call (some (.type convert)) "FromBase64String" [] [.var "base64"]
  return [
    .declare "base64" "string" [] (some (.text (Base64.standard.encode bytes))),
    .blank,
    .scope
      [.declare "mem" stream [] (some (.construct memory [] [decoded, .truth false]))]
      [.invokeOn (some (.var partName)) "FeedData" [.var "mem"]]
      [.invokeOn (some (.var "mem")) "Dispose" []]]

/-- The property of a part that takes its root element. -/
def rootProperty (ctx : Context) (part : Part) (root : Element) : Except Failure String :=
  let properties := ((ctx.registry.part? part.type).map (·.properties.entries)).getD []
  match properties.find? (·.2 = root.type) with
  | some (name, _) => .ok name
  | none =>
    .error (.unsupported (.rootProperty part.type root.type) (Location.of? [] (some part.uri)))

/-- Sets the root element of a part, unless the element was skipped. -/
def rootAssignment (ctx : Context) (part : Part) (root : Element) (name : String) :
    Except Failure (List Instr) :=
  if name = "" then .ok []
  else (rootProperty ctx part root).map fun property => [.set partName property (.var name)]

def content (ctx : Context) (part : Part) : Visit (List Instr) :=
  match part.content with
  | .none => pure []
  | .binary bytes => payloadFeed ctx bytes
  | .root e => do
    let output ← Visit.buildAlone (root ctx (some e))
    match rootAssignment ctx part e output.name with
    | .ok assignment => return output.instructions ++ assignment
    | .error failure => Step.fail failure

def fillRoutine (ctx : Context) (b : Blueprint) : Visit Routine := do
  let body ← content ctx b.part
  let typeName ← Visit.typeName ctx b.part.type
  return ⟨b.routine, [⟨partName, typeName, true⟩], body, none, none, false⟩

/-- What the handler of a part gives for its routine. -/
def handledRoutine (ctx : Context) (b : Blueprint) : Visit (Option Routine) :=
  match ctx.handlers.parts.get? b.part.type with
  | none => pure none
  | some handler => Visit.onShared (handler.routine b)

def helper (ctx : Context) (b : Blueprint) : Visit (List Routine) := do
  Visit.checkCancelled
  match ← handledRoutine ctx b with
  | some routine => return [routine]
  | none => return [← fillRoutine ctx b]

/-- The routines for all parts that have been visited. -/
def helpers (ctx : Context) : Visit (List Routine) := do
  let blueprints ← Step.read (·.blueprints.values)
  Step.collect (helper ctx) blueprints

/-- The routine that fills a part and all that hangs on it. -/
def partEntry (ctx : Context) (graph : Graph) (part : Part) : Visit Routine := do
  Visit.checkCancelled
  Visit.register ctx part.type
  let routine := fillName (← Visit.nextName part.type)
  Visit.enter ⟨part, partName, routine⟩
  let relations ← links ctx partName part.hyperlinks part.externals
  let below ← edges ctx graph partName part.type part.children
  let typeName ← Visit.typeName ctx part.type
  let gap := if part.children.isEmpty then [] else [Instr.blank]
  return ⟨"Create" ++ part.type.name, [⟨partName, typeName, false⟩],
    fillCall partName routine :: relations ++ gap ++ below, none, none, true⟩

/-- The routine that fills a part and all that hangs on it, and the routines that it needs. -/
def partRoutines (ctx : Context) (graph : Graph) (part : Option Part) :
    Visit (Routine × List Routine) :=
  match part with
  | none => Step.fail (.unmet .part)
  | some part => do
    let entry ← partEntry ctx graph part
    return (entry, ← helpers ctx)

/-- The routine that creates a package in a stream. -/
def packageEntry (typeName streamTypeName create : String) : Routine :=
  let creation := Expr.call (some (.type typeName)) create [] [.var streamName]
  ⟨"CreatePackage", [⟨streamName, streamTypeName, false⟩],
    [.scope
      [.declare packageName typeName [] (some creation)]
      [.blank, .invokeOn none createParts [.var packageName]]
      [.invokeOn (some (.var packageName)) "Dispose" []]],
    none, none, true⟩

/-- The routine that creates a package, and the one that creates its parts. The parts come from a
graph that is usually the package's own. -/
def packageEntries (ctx : Context) (graph : Graph) (package : Package) : Visit (Routine × Routine) := do
  Visit.checkCancelled
  Visit.addPlain streamType.space
  Visit.register ctx package.type
  let create := ((ctx.registry.package? package.type).map (·.create)).getD
    PackageSpec.defaultCreate
  let typeName ← Visit.typeName ctx package.type
  let streamTypeName ← Visit.typeName ctx streamType
  let below ← edges ctx graph packageName package.type package.children
  let relations ← links ctx packageName package.hyperlinks package.externals
  let parts : Routine := ⟨createParts, [⟨packageName, typeName, false⟩], below ++ relations,
    none, none, false⟩
  return (packageEntry typeName streamTypeName create, parts)

/-- The routine that creates a package, and the routines that it needs. -/
def packageRoutines (ctx : Context) (graph : Graph) (package : Option Package) :
    Visit (Routine × List Routine) :=
  match package with
  | none => Step.fail (.unmet .package)
  | some package => do
    let (entry, parts) ← packageEntries ctx graph package
    return (entry, parts :: (← helpers ctx))

end Compile

end DocScript
