import ChanceDeck.Run.Session

/-!
# Command line

The operating system as a host, and the program.
-/

set_option autoImplicit false
set_option relaxedAutoImplicit false

namespace ChanceDeck

/-- What an error of the operating system says about a file. -/
def FileError.ofSystem : IO.Error → FileError
  | .noFileOrDirectory _ _ _ => .missing
  | .alreadyExists _ _ _ => .exists
  | .inappropriateType _ code _ => if code = 20 then .notFolder else .isFolder
  | error => .other error.toString.toList

/-- The outcome of an action on files. -/
def attempt {α : Type} (action : IO α) : IO (Except FileError α) := do
  try
    return .ok (← action)
  catch error =>
    return .error (.ofSystem error)

/-- The path of a file for an action; a path that is no text has none. -/
def RawText.forSystem (path : RawText) : IO String :=
  match path.text? with
  | none => throw (IO.userError "path contains invalid UTF-8 characters")
  | some text => return String.ofList text

/-- The names on the way from the root to the working folder; none if it is not known. -/
def workingNames : IO Location := do
  try
    let folder ← IO.currentDir
    return (folder.toString.toList.splitOn '/').filterMap fun name ↦
      if name = [] then none else some (Utf8.encode name)
  catch _ =>
    return []

instance : Host IO where
  workingFolder := workingNames
  readFile path := attempt do
    return (← IO.FS.readBinFile (← path.forSystem)).toList
  makeFolders path := attempt do
    IO.FS.createDirAll (← path.forSystem)
  writeFile path bytes := attempt do
    IO.FS.writeBinFile (← path.forSystem) ⟨bytes.toArray⟩
  print text := do (← IO.getStdout).putStr (String.ofList text)
  report line := do (← IO.getStderr).putStrLn (String.ofList line)

end ChanceDeck

/-- Runs the program with the arguments of the command line. -/
def main (arguments : List String) : IO UInt32 := do
  return UInt32.ofNat (← ChanceDeck.Session.run (arguments.map fun argument ↦ .ofText argument.toList))
