import DocScript.Command.Run

/-!
# The program

Looks at the paths that the arguments name, runs the command on what is there, and prints and
writes what the command gives.
-/

namespace DocScript

/-- The code of the error that a step of a path is no folder. -/
def notFolderCode : UInt32 := 20

def look (path : String) : IO Found := do
  try return .file (← IO.FS.readFile path)
  catch
    | .noFileOrDirectory .. => return .nothing
    | .inappropriateType _ code _ => return if code = notFolderCode then .nothing else .folder
    | _ => return .unreadable

end DocScript

def main (args : List String) : IO UInt32 := do
  let paths := ((DocScript.Command.ofArgs? args).map DocScript.Command.paths).getD []
  let found ← paths.mapM fun path => return (path, ← DocScript.look path)
  let outcome := DocScript.Command.runArgs (fun path => (found.lookup path).getD .nothing) args
  if let some (path, text) := outcome.written then IO.FS.writeFile path text
  IO.print outcome.printed
  return outcome.exitCode.toUInt32
