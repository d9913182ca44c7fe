/-!
# Files of a command

A path leads from the working folder, or from the root, to a file or folder. `Files.ofList` says
what stands at a path if some files are in the working folder.
-/

namespace DocScript

inductive Found where
  | file (text : String)
  | folder
  | nothing
  /-- The path cannot be looked at. -/
  | unreadable
  deriving DecidableEq, Repr

/-- The slashes that a path starts with: two are kept, and more stand for one. -/
def pathRoot (path : String) : String :=
  match (path.toList.takeWhile (· = '/')).length with
  | 0 => ""
  | 2 => "//"
  | _ => "/"

/-- The steps of a path without empty ones and those to the same place. -/
def pathSteps (path : String) : List String :=
  (path.splitOn "/").filter fun s => s ≠ "" && s ≠ "."

/-- A path without empty steps and steps to the same place. -/
def cleanPath (path : String) : String :=
  let clean := pathRoot path ++ "/".intercalate (pathSteps path)
  if clean = "" then "." else clean

def folderOf (path : String) : String :=
  match pathSteps path with
  | [] => cleanPath path
  | steps => cleanPath (pathRoot path ++ "/".intercalate steps.dropLast)

/-- A place seen from the working folder: so many folders up, and then down. -/
structure Site where
  ups : Nat
  downs : List String
  deriving DecidableEq, Repr

namespace Site

def here : Site := ⟨0, []⟩

def step (l : Site) (s : String) : Site :=
  if s ≠ ".." then { l with downs := l.downs ++ [s] }
  else if l.downs.isEmpty then { l with ups := l.ups + 1 }
  else { l with downs := l.downs.dropLast }

/-- The place at the end of a path that starts in the working folder. -/
def ofPath (path : String) : Site := (pathSteps path).foldl step here

def inside? (l : Site) : Option String :=
  if l.ups = 0 && !l.downs.isEmpty then some ("/".intercalate l.downs) else none

end Site

/-- The path from the working folder to what is in it. -/
def insidePath? (path : String) : Option String :=
  if pathRoot path = "" then (Site.ofPath path).inside? else none

abbrev Files := String → Found

namespace Files

def maxNameBytes : Nat := 255

/-- What stands at a place if some files are in the working folder. -/
def foundAt (files : List (String × String)) (l : Site) : Found :=
  if l.downs.isEmpty then .folder
  else if l.ups ≠ 0 then .nothing
  else
    let path := "/".intercalate l.downs
    match files.lookup path with
    | some text => .file text
    | none => if files.any fun f => f.1.startsWith (path ++ "/") then .folder else .nothing

def walk (files : List (String × String)) (l : Site) : List String → Found
  | [] => foundAt files l
  | s :: steps =>
    match foundAt files l with
    | .folder =>
      if maxNameBytes < s.utf8ByteSize then .unreadable else walk files (l.step s) steps
    | .file _ | .nothing => .nothing
    | .unreadable => .unreadable

def atRoot (steps : List String) : Found :=
  if steps = ["dev", "null"] then .file ""
  else if steps ∈ [[], ["dev"], ["tmp"]] then .folder
  else .nothing

/-- Some files with their texts, in the folders that their paths name. A path with a null
character leads to nothing. -/
def ofList (files : List (String × String)) : Files := fun path =>
  let files := files.map fun (path, text) => (cleanPath path, text)
  if path.contains '\x00' then .nothing
  else if pathRoot path ≠ "" then atRoot (pathSteps path)
  else walk files .here (pathSteps path)

end Files

end DocScript
