import ChanceDeck.Run.Files

/-!
# Hosts

What a run needs from outside: the folder in which it works, files by path, a place for its results
and a place for its reports. Runs are written for any host, so that they can be carried out by an
operating system and on a `Machine`, which is a value.
-/

set_option autoImplicit false
set_option relaxedAutoImplicit false

namespace ChanceDeck

/-- What a run needs from outside. -/
class Host (m : Type → Type) where
  /-- The folder from which paths lead that do not begin at the root. -/
  workingFolder : m Location
  /-- Reads a file. -/
  readFile : RawText → m (Except FileError Bytes)
  /-- Makes a folder and those around it, unless they are there. -/
  makeFolders : RawText → m (Except FileError Unit)
  /-- Writes a file in a folder that is there. -/
  writeFile : RawText → Bytes → m (Except FileError Unit)
  /-- Adds a text to the results. -/
  print : Text → m Unit
  /-- Adds a line to the reports. -/
  report : Text → m Unit

end ChanceDeck
