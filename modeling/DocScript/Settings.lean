import DocScript.Json.Check
import DocScript.Naming.Namespaces
import DocScript.Schema.Codec

/-!
# Settings

What a run can be told: which elements to skip, how to name variables and types, and the namespace
of the script.
-/

namespace DocScript

structure Settings where
  /-- Opaque elements are skipped. -/
  skipOpaque : Bool
  /-- Raw payload of these kinds is skipped. -/
  skippedRawKinds : List String
  /-- No name of a variable is used again. -/
  uniqueNames : Bool
  policy : NamePolicy
  /-- The namespace of the script. -/
  space : String
  deriving DecidableEq, Repr

namespace Settings

def standard : Settings := ⟨true, [], false, .short, "OpenXmlSample"⟩

def ofJson (j : Json) : Checked Settings :=
  j.model <| Settings.mk
    <$> j.withDefault "ignore_unknown_opaque_nodes" standard.skipOpaque (fun v _ => v.asBool)
    <*> (List.eraseDups <$> j.withDefault "ignored_raw_payload_kinds" standard.skippedRawKinds
      fun v _ => Json.sequence .notSet v fun w _ => w.asString)
    <*> j.withDefault "unique_variable_names" standard.uniqueNames (fun v _ => v.asBool)
    <*> j.withDefault "alias_order" standard.policy (fun v _ => v.asEnum NamePolicy.named)
    <*> j.withDefault "generated_namespace_name" standard.space fun v _ => v.asString

/-- Writes settings as JSON; the kinds are sorted. -/
def toJson (s : Settings) : Json :=
  .obj [("ignore_unknown_opaque_nodes", .bool s.skipOpaque),
    ("ignored_raw_payload_kinds",
      .arr ((s.skippedRawKinds.mergeSort fun a b => decide (a ≤ b)).map .str)),
    ("unique_variable_names", .bool s.uniqueNames),
    ("alias_order", .str (nameIn NamePolicy.named s.policy)),
    ("generated_namespace_name", .str s.space)]

end Settings

end DocScript
