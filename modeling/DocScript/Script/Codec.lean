import DocScript.Schema.Codec
import DocScript.Script.Basic

/-!
# Scripts as JSON

Every member is written, by `toJson`; `ofJson` reads a script back. A decimal is written as its
text, and a number that is not finite as null.
-/

namespace DocScript

open Numeral

def Literal.toJson : Literal → Json
  | null => .null
  | bool b => .bool b
  | int n => .int n
  | float (.finite x) => .float (.finite x)
  | float _ => .null
  | decimal d => .str d.text
  | str s => .str s

/-- Reads a literal. Anything else has a fault for each kind of literal it could be. -/
def Literal.ofJson : Json → Checked Literal
  | .null => .valid .null
  | .bool b => .valid (.bool b)
  | .int n => .valid (.int n)
  | .float x => .valid (.float x)
  | .str s => .valid (.str s)
  | _ =>
    .invalid [⟨[.field "bool"], .notBool⟩, ⟨[.field "int"], .notInt⟩,
      ⟨[.field "float"], .notFloat⟩, ⟨[.field "decimal"], .notDecimal⟩,
      ⟨[.field "str"], .notString⟩]

def Json.ofStrings (names : List String) : Json := .arr (names.map .str)

namespace Expr

mutual

def toJson : Expr → Json
  | primitive value => .obj [("kind", .str "primitive"), ("value", value.toJson)]
  | var name => .obj [("kind", .str "variable"), ("name", .str name)]
  | type name => .obj [("kind", .str "type"), ("type_name", .str name)]
  | constant owner member =>
    .obj [("kind", .str "constant"), ("owner", .str owner), ("member", .str member)]
  | byRef name => .obj [("kind", .str "by_ref"), ("name", .str name)]
  | construct typeName typeArgs args =>
    .obj [("kind", .str "construct"), ("type_name", .str typeName),
      ("type_args", .ofStrings typeArgs), ("args", .arr (toJsonAll args))]
  | call target operation typeArgs args =>
    .obj [("kind", .str "call"),
      ("target", match target with
        | none => .null
        | some t => toJson t),
      ("operation", .str operation), ("type_args", .ofStrings typeArgs),
      ("args", .arr (toJsonAll args))]

def toJsonAll : List Expr → List Json
  | [] => []
  | e :: rest => toJson e :: toJsonAll rest

end

def callMembers (j : Json) (expr : (v : Json) → sizeOf v < sizeOf j → Checked Expr) :
    Checked Call :=
  (fun _ target operation typeArgs args => Call.mk target operation typeArgs args)
    <$> j.literalKind "call"
    <*> j.withDefault "target" none (fun v h =>
      match v with
      | .null => .valid none
      | v => some <$> expr v h)
    <*> j.required "operation" (fun v _ => v.asString)
    <*> j.withDefault "type_args" [] (fun v _ => v.asList Json.asString)
    <*> j.withDefault "args" [] fun v h =>
      Json.sequence .notList v fun w hw => expr w (Nat.lt_trans hw h)

def ofJson (j : Json) : Checked Expr :=
  j.tagged fun tag =>
    if tag = "primitive" then
      some (primitive <$> j.withDefault "value" .null fun v _ => Literal.ofJson v)
    else if tag = "variable" then some (var <$> j.required "name" fun v _ => v.asString)
    else if tag = "type" then some (type <$> j.required "type_name" fun v _ => v.asString)
    else if tag = "constant" then
      some (constant <$> j.required "owner" (fun v _ => v.asString)
        <*> j.required "member" fun v _ => v.asString)
    else if tag = "by_ref" then some (byRef <$> j.required "name" fun v _ => v.asString)
    else if tag = "construct" then
      some (construct <$> j.required "type_name" (fun v _ => v.asString)
        <*> j.withDefault "type_args" [] (fun v _ => v.asList Json.asString)
        <*> j.withDefault "args" [] fun v _ => Json.sequence .notList v fun w _ => ofJson w)
    else if tag = "call" then
      some ((fun c : Call => call c.target c.operation c.typeArgs c.args)
        <$> callMembers j fun v _ => ofJson v)
    else none
termination_by sizeOf j

end Expr

def Call.toJson (c : Call) : Json := (Expr.call c.target c.operation c.typeArgs c.args).toJson

def Call.ofJson (j : Json) : Checked Call :=
  j.model (Expr.callMembers j fun v _ => Expr.ofJson v)

namespace Instr

mutual

def toJson : Instr → Json
  | declare name typeName typeArgs value =>
    .obj [("kind", .str "declare"), ("name", .str name), ("type_name", .str typeName),
      ("type_args", .ofStrings typeArgs), ("value", .ofOption Expr.toJson value)]
  | assign target member value =>
    .obj [("kind", .str "assign"), ("target", target.toJson), ("member", .ofOption .str member),
      ("value", value.toJson)]
  | invoke call => .obj [("kind", .str "invoke"), ("call", call.toJson)]
  | comment text => .obj [("kind", .str "comment"), ("text", .str text)]
  | blank => .obj [("kind", .str "blank")]
  | scope acquire body release =>
    .obj [("kind", .str "scoped"), ("acquire", .arr (toJsonAll acquire)),
      ("body", .arr (toJsonAll body)), ("release", .arr (toJsonAll release))]

def toJsonAll : List Instr → List Json
  | [] => []
  | i :: rest => toJson i :: toJsonAll rest

end

def ofJson (j : Json) : Checked Instr :=
  let block (name : String) : Checked (List Instr) :=
    j.withDefault name [] fun v _ => Json.sequence .notList v fun w _ => ofJson w
  j.tagged fun tag =>
    if tag = "declare" then
      some (declare <$> j.required "name" (fun v _ => v.asString)
        <*> j.required "type_name" (fun v _ => v.asString)
        <*> j.withDefault "type_args" [] (fun v _ => v.asList Json.asString)
        <*> j.withDefault "value" none fun v _ => v.asOption Expr.ofJson)
    else if tag = "assign" then
      some (assign <$> j.required "target" (fun v _ => Expr.ofJson v)
        <*> j.withDefault "member" none (fun v _ => v.asOption Json.asString)
        <*> j.required "value" fun v _ => Expr.ofJson v)
    else if tag = "invoke" then some (invoke <$> j.required "call" fun v _ => Call.ofJson v)
    else if tag = "comment" then some (comment <$> j.required "text" fun v _ => v.asString)
    else if tag = "blank" then some (.valid blank)
    else if tag = "scoped" then
      some (scope <$> block "acquire" <*> block "body" <*> block "release")
    else none
termination_by sizeOf j

end Instr

def Parameter.toJson (p : Parameter) : Json :=
  .obj [("name", .str p.name), ("type_name", .str p.typeName), ("by_ref", .bool p.byRef)]

def Parameter.ofJson (j : Json) : Checked Parameter :=
  j.model <| Parameter.mk
    <$> j.required "name" (fun v _ => v.asString)
    <*> j.required "type_name" (fun v _ => v.asString)
    <*> j.withDefault "by_ref" false fun v _ => v.asBool

def Routine.toJson (r : Routine) : Json :=
  .obj [("name", .str r.name), ("parameters", .arr (r.parameters.map (·.toJson))),
    ("body", .arr (Instr.toJsonAll r.body)), ("return_type", .ofOption .str r.returnType),
    ("returns", .ofOption Expr.toJson r.returns), ("public", .bool r.isPublic)]

def Routine.ofJson (j : Json) : Checked Routine :=
  j.model <| Routine.mk
    <$> j.required "name" (fun v _ => v.asString)
    <*> j.withDefault "parameters" [] (fun v _ => v.asList Parameter.ofJson)
    <*> j.withDefault "body" [] (fun v _ => v.asList Instr.ofJson)
    <*> j.withDefault "return_type" none (fun v _ => v.asOption Json.asString)
    <*> j.withDefault "returns" none (fun v _ => v.asOption Expr.ofJson)
    <*> j.withDefault "public" false fun v _ => v.asBool

def Import.toJson (i : Import) : Json :=
  .obj [("namespace", .str i.space), ("alias", .str i.aliasName)]

def Import.ofJson (j : Json) : Checked Import :=
  j.model <| Import.mk
    <$> j.required "namespace" (fun v _ => v.asString)
    <*> j.withDefault "alias" "" fun v _ => v.asString

def Script.toJson (s : Script) : Json :=
  .obj [("namespace", .str s.space), ("imports", .arr (s.imports.map (·.toJson))),
    ("class_name", .str s.className), ("routines", .arr (s.routines.map (·.toJson)))]

def Script.ofJson (j : Json) : Checked Script :=
  j.model <| Script.mk
    <$> j.required "namespace" (fun v _ => v.asString)
    <*> j.withDefault "imports" [] (fun v _ => v.asList Import.ofJson)
    <*> j.required "class_name" (fun v _ => v.asString)
    <*> j.withDefault "routines" [] fun v _ => v.asList Routine.ofJson

end DocScript
