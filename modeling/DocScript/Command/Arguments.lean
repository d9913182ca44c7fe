import DocScript.Naming.Namespaces

/-!
# Commands

A command names a model, where its settings are and what to do with the script. Options and the
model may come in any order; two hyphens end the options. The last of several equal options counts.
-/

namespace DocScript

structure Job where
  model : String
  config : Option String
  uniqueNames : Bool
  deriving DecidableEq, Repr

inductive Command where
  | version
  /-- Writes the script, to the standard output if there is no path. -/
  | compile (job : Job) (policy : Option NamePolicy) (space output : Option String)
  | inspect (job : Job)
  deriving DecidableEq, Repr

namespace Command

inductive Flag where
  | config
  | uniqueNames
  | aliasOrder
  | space
  | output
  | verbose
  deriving DecidableEq, Repr

def Flag.hasValue : Flag → Bool
  | uniqueNames | verbose => false
  | _ => true

def inspectFlags : List (String × Flag) :=
  [("--config", .config), ("-c", .config), ("--unique-names", .uniqueNames),
    ("--verbose", .verbose)]

def compileFlags : List (String × Flag) :=
  inspectFlags ++ [("--alias-order", .aliasOrder), ("--namespace", .space), ("-n", .space),
    ("--output", .output), ("-o", .output)]

/-- What the arguments of a command say: flags with their values, and the rest. -/
structure Given where
  flags : List (Flag × String)
  others : List String
  deriving Repr

def Given.value? (g : Given) (f : Flag) : Option String := g.flags.reverse.lookup f

def Given.has (g : Given) (f : Flag) : Bool := (g.value? f).isSome

def Given.withFlag (f : Flag) (value : String) (g : Given) : Given :=
  { g with flags := (f, value) :: g.flags }

def Given.withOther (s : String) (g : Given) : Given := { g with others := s :: g.others }

/-- A long option, split at the first equals sign. -/
def splitValue (s : String) : String × Option String :=
  match s.toList.span (· != '=') with
  | (name, _ :: value) => (String.ofList name, some (String.ofList value))
  | (name, []) => (String.ofList name, none)

/-- Reads arguments, if the flags are known and have values where they need them. -/
def read? (known : List (String × Flag)) : List String → Option Given
  | [] => some ⟨[], []⟩
  | arg :: rest =>
    if arg = "--" then some ⟨[], rest⟩
    else if !arg.startsWith "-" || arg = "-" then (read? known rest).map (·.withOther arg)
    else
      let (name, attached) :=
        if arg.startsWith "--" then splitValue arg
        else
          let value := String.ofList (arg.toList.drop 2)
          (String.ofList (arg.toList.take 2), if value = "" then none else some value)
      match known.lookup name with
      | none => none
      | some f =>
        match f.hasValue, attached with
        | false, none => (read? known rest).map (·.withFlag f "")
        | false, some _ => none
        | true, some value => (read? known rest).map (·.withFlag f value)
        | true, none =>
          match rest with
          | value :: rest => (read? known rest).map (·.withFlag f value)
          | [] => none

/-- What both commands are told, if exactly one model is given. -/
def job? (g : Given) : Option Job :=
  match g.others with
  | [model] => some ⟨model, g.value? .config, g.has .uniqueNames⟩
  | _ => none

def ofName? : List String → Option Command
  | "compile" :: args => do
    let g ← read? compileFlags args
    let job ← job? g
    let policy ← (g.value? .aliasOrder).mapM fun name => NamePolicy.named.lookup name
    return .compile job policy (g.value? .space) (g.value? .output)
  | "inspect" :: args => do
    let g ← read? inspectFlags args
    return .inspect (← job? g)
  | _ => none

/-- The arguments of which the first is no option, or none if an option before it is not known. -/
def afterVersion? : List String → Option (List String)
  | [] => some []
  | arg :: rest =>
    if arg = "--" then some rest
    else if arg = "--version" || arg = "--help" then afterVersion? rest
    else if arg.startsWith "-" && arg ≠ "-" then none
    else some (arg :: rest)

def ofArgs? : List String → Option Command
  | "--version" :: args => (afterVersion? args).map fun _ => .version
  | "--" :: args => ofName? args
  | args => ofName? args

end Command

end DocScript
