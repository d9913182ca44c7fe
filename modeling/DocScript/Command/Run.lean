import DocScript.Command.Arguments
import DocScript.Command.Files
import DocScript.Compile.Script
import DocScript.Document.Load
import DocScript.Json.Printer
import DocScript.Script.Codec
import DocScript.Script.Summary
import DocScript.Settings.Load

/-!
# Running commands

A command runs on a set of files and gives what it prints, what it writes and how it ends. Settings
come first: a model is not looked for unless they are valid. Faults of the input are printed; what
is left ends the command without a word.
-/

namespace DocScript

structure Outcome where
  exitCode : Nat
  printed : String
  written : Option (String × String)
  deriving DecidableEq, Repr

namespace Outcome

def done (printed : String) : Outcome := ⟨0, printed, none⟩

def failed (message : String) : Outcome := ⟨1, Console.line ("✗ " ++ message), none⟩

/-- The command ended in the middle of what it printed. -/
def stopped (printed : String) : Outcome := ⟨1, printed, none⟩

def broken : Outcome := stopped ""

def unusable : Outcome := ⟨2, "", none⟩

end Outcome

/-- A failure is one of the input, so that it is printed. -/
def Failure.isPrinted : Failure → Bool
  | unmet _ | cancelled | unsupported .. | schema _ => true
  | blueprintTwice _ | address _ | momentOutOfRange => false

/-- The message of a failure with all issues of a model that is not valid. -/
def Failure.report (f : Failure) : String :=
  match f with
  | unmet (.validModel _ issues) => "\n".intercalate (f.message :: issues.map Issue.text)
  | _ => f.message

namespace Command

def versionText : String := "replaygen 0.1.0\n"

def settingsFrom (files : Files) : Option String → Except Outcome Settings
  | none => .ok .standard
  | some config =>
    let path := cleanPath config
    let load (text : Option String) : Except Outcome Settings :=
      (Settings.load text).mapError fun fault =>
        match fault.message? with
        | some message => .failed ("Invalid configuration " ++ path ++ ": " ++ message)
        | none => .broken
    match files path with
    | .file text => load (some text)
    | .nothing => load none
    | .folder | .unreadable => .error .broken

def scriptFor (files : Files) (model : String) (settings : Settings) : Except Outcome Script :=
  let path := cleanPath model
  let attempt (text : Option String) : Except Outcome Script :=
    (Model.load path text >>= Compile.document (some settings) .none false).mapError fun f =>
      if f.isPrinted then .failed f.report else .broken
  match files path with
  | .file text => attempt (some text)
  | .nothing => attempt none
  | .folder | .unreadable => .error .broken

def canWrite (files : Files) (path : String) : Bool :=
  !path.contains '\x00' &&
    match files path, files (folderOf path) with
    | .file _, _ | .nothing, .folder => true
    | _, _ => false

def write (files : Files) (output : String) (script : Script) (text : String) : Outcome :=
  let path := cleanPath output
  if canWrite files path then
    ⟨0, Console.line ("✓ Wrote " ++ script.className ++ " (" ++ Nat.repr script.instructionCount
      ++ " instructions) to " ++ path), some (path, text ++ "\n")⟩
  else .broken

def paths : Command → List String
  | version => []
  | compile job _ _ output =>
    cleanPath job.model :: (job.config.toList.map cleanPath
      ++ output.toList.flatMap fun o => [cleanPath o, folderOf (cleanPath o)])
  | inspect job => cleanPath job.model :: job.config.toList.map cleanPath

/-- Runs a command, which either gives an outcome or stops with one. -/
def attempt (files : Files) : Command → Except Outcome Outcome
  | version => return .done versionText
  | compile job policy space output => do
    let settings ← settingsFrom files job.config
    let script ← scriptFor files job.model { settings with
      uniqueNames := job.uniqueNames || settings.uniqueNames
      policy := policy.getD settings.policy
      space := (space.filter (· ≠ "")).getD settings.space }
    let text := script.toJson.pretty
    return match output with
      | none => .done (text ++ "\n")
      | some output => write files output script text
  | inspect job => do
    let settings ← settingsFrom files job.config
    let script ← scriptFor files job.model { settings with
      uniqueNames := job.uniqueNames || settings.uniqueNames }
    return match script.summary with
      | .ok text => .done text
      | .error text => .stopped text

def run (files : Files) (c : Command) : Outcome :=
  match attempt files c with
  | .ok outcome | .error outcome => outcome

def runArgs (files : Files) (args : List String) : Outcome :=
  match ofArgs? args with
  | none => .unusable
  | some c => run files c

end Command

end DocScript
