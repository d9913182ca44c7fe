import DocScript.Settings
import DocScript.Toml.Reader

/-!
# Loading settings

Settings are read from one section of a TOML document. A key that is absent leaves the usual
setting; a section that is absent or empty leaves them all. Where a truth value is wanted any
value is taken for one, where kinds are wanted anything with members, and where a name is wanted
the text of any value.
-/

namespace DocScript

open Toml (Value)

inductive SettingsFault where
  | document (fault : Toml.Fault)
  /-- A value cannot be looked into, or has members that cannot be told apart. -/
  | misused
  | unknownPolicy (value : Value)
  /-- An integer is too long to be written as text. -/
  | tooManyDigits
  | invalid (issues : List Issue)
  deriving Repr

namespace Settings

/-- The section of a document that holds settings. -/
def sectionName : String := "replaygen"

/-- What a section says about a key. Texts and lists are searched for the key as well, and cannot
be asked for its value once it is found. -/
def find? (source : Value) (key : String) : Except SettingsFault (Option Value) :=
  match source with
  | .table entries => .ok (lookupEntry key entries)
  | .text s =>
    if (Toml.Scan.before? key.toList s.toList).isSome then .error .misused else .ok none
  | .list items => if items.any (·.same (.text key)) then .error .misused else .ok none
  | _ => .error .misused

/-- The members of a value, each once: the characters of a text, the items of a list, the keys of
a table. -/
def members : Value → Except SettingsFault (List Value)
  | .text s => .ok ((s.toList.map fun c => Value.text (String.singleton c)).eraseDupsBy Value.same)
  | .list items =>
    if items.all Value.isScalar then .ok (items.eraseDupsBy Value.same) else .error .misused
  | .table entries => .ok (entries.map fun e => .text e.1)
  | _ => .error .misused

def kindsOf (vs : List Value) : Except SettingsFault (List String) :=
  let issue? (v : Value × Nat) : Option Issue :=
    match v.1 with
    | .text _ => none
    | _ => some ⟨[.field "ignored_raw_payload_kinds", .index v.2], .notString⟩
  match vs.zipIdx.filterMap issue? with
  | [] => .ok (vs.map Value.display)
  | issues => .error (.invalid issues)

def checkWritable (v : Value) : Except SettingsFault Unit :=
  if v.isWritable then .ok () else .error .tooManyDigits

def policyOf (v : Value) : Except SettingsFault NamePolicy :=
  match v with
  | .text s => ((NamePolicy.named.lookup s).map .ok).getD (.error (.unknownPolicy v))
  | _ => do
    checkWritable v
    throw (.unknownPolicy v)

def textOf (v : Value) : Except SettingsFault String := do
  checkWritable v
  return v.display

/-- The settings of a section. Kinds are checked last. -/
def ofSection (v : Value) : Except SettingsFault Settings := do
  let skipOpaque ← find? v "ignore_unknown_opaque_nodes"
  let kinds ← (← find? v "ignored_raw_payload_kinds").mapM members
  let uniqueNames ← find? v "unique_variable_names"
  let policy ← (← find? v "alias_order").mapM policyOf
  let space ← (← find? v "namespace").mapM textOf
  return {
    skipOpaque := (skipOpaque.map Value.truthy).getD standard.skipOpaque
    skippedRawKinds := (← kinds.mapM kindsOf).getD standard.skippedRawKinds
    uniqueNames := (uniqueNames.map Value.truthy).getD standard.uniqueNames
    policy := policy.getD standard.policy
    space := space.getD standard.space }

/-- The settings in the text of a document, or the usual ones if there is no document. -/
def load (text : Option String) : Except SettingsFault Settings :=
  match text with
  | none => .ok standard
  | some text => do
    let entries ← (Toml.read text).mapError .document
    match lookupEntry sectionName entries with
    | none => return standard
    | some v => if v.truthy then ofSection v else return standard

end Settings

/-- The text after the name of a value that is no policy. -/
def notPolicy : String := " is not a valid AliasOrderPolicy"

/-- The message for an integer that is too long to be written as text. -/
def tooManyDigitsMessage : String :=
  "Exceeds the limit (" ++ Nat.repr Numeral.maxDigits ++ " digits) for integer string conversion; "
    ++ "use sys.set_int_max_str_digits() to increase the limit"

def Issue.text (i : Issue) : String :=
  let step : Place → String
    | .field name => name
    | .index n => Nat.repr n
  ".".intercalate (i.path.map step) ++ ": " ++ (i.fault.message?.getD i.fault.code)

/-- The message of a fault, unless it is a misuse, which has none. -/
def SettingsFault.message? : SettingsFault → Option String
  | document fault => some fault.message
  | misused => none
  | unknownPolicy v => some (v.literal ++ notPolicy)
  | tooManyDigits => some tooManyDigitsMessage
  | invalid issues => some ("\n".intercalate (issues.map Issue.text))

end DocScript
