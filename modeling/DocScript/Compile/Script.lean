import DocScript.Compile.Graph
import DocScript.Document.Model

/-!
# Documents as scripts

A script rebuilds an element tree, a part with all that hangs on it, or a package. Every run
begins with no namespaces registered.
-/

namespace DocScript.Compile

/-- The script with some routines that builds something of a type. -/
def script (ctx : Context) (shared : Shared) (typeName : String) (routines : List Routine) :
    Script :=
  ⟨ctx.settings.space, shared.namespaces.imports ctx.settings.policy, typeName ++ "BuilderClass",
    routines⟩

/-- A context for a run; a run that is told nothing has the usual settings. -/
def context (settings : Option Settings) (registry : Option Registry) (handlers : Handlers) :
    Except Failure Context :=
  match registry with
  | none => .error (.unmet .schema)
  | some r => .ok ⟨settings.getD .standard, r, handlers⟩

def elementScript (ctx : Context) (cancelled : Bool) (e : Option Element) :
    Except Failure Script :=
  match e with
  | none => .error (.unmet .element)
  | some e => do
    let (result, w) := root ctx (some e) ⟨.start cancelled, .empty⟩
    let output ← result
    let typeName := w.shared.namespaces.typeName ctx.settings.policy e.type
    let returns := if output.name = "" then none else some (Expr.var output.name)
    let routine : Routine := ⟨"Build" ++ e.type.name, [], output.instructions, some typeName,
      returns, true⟩
    return script ctx w.shared e.type.name [routine]

def partScript (ctx : Context) (cancelled : Bool) (graph : Option Graph) (uri : String) :
    Except Failure Script :=
  match graph with
  | none => .error (.unmet .graph)
  | some graph =>
    match graph.get? uri with
    | none => .error (.unmet (.partInGraph uri))
    | some part => do
      let (result, w) := partRoutines ctx graph (some part) (.start (.start cancelled))
      let (entry, more) ← result
      return script ctx w.shared part.type.name (entry :: more)

def packageScript (ctx : Context) (cancelled : Bool) (package : Option Package) :
    Except Failure Script :=
  match package with
  | none => .error (.unmet .package)
  | some package => do
    let (result, w) := packageRoutines ctx package.graph (some package) (.start (.start cancelled))
    let (entry, more) ← result
    return script ctx w.shared package.type.name (entry :: more)

def targetScript (ctx : Context) (cancelled : Bool) : Target → Except Failure Script
  | .element e _ => elementScript ctx cancelled (some e)
  | .part uri graph => partScript ctx cancelled (some graph) uri
  | .package package _ => packageScript ctx cancelled (some package)

/-- The script that builds the target of a model. -/
def document (settings : Option Settings) (handlers : Handlers) (cancelled : Bool) (m : Model) :
    Except Failure Script := do
  let registry ← (Registry.build m.schema).mapError .schema
  let ctx ← context settings (some registry) handlers
  targetScript ctx cancelled m.target

end DocScript.Compile
