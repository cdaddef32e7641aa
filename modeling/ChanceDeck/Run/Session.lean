import ChanceDeck.Run.Conversion
import ChanceDeck.Run.Environment
import ChanceDeck.Run.Inspection
import ChanceDeck.Run.Machine
import ChanceDeck.Run.Tokenization

/-!
# Sessions

A whole run of the program: the local environment, whose file is looked for in the working folder
and the folders around it, sets what is reported, the settings are loaded from their files and
checked for unused keys, and the command is carried out. A run ends with a status: 0 if all went
well, 1 if it failed and 2 if its arguments could not be understood.
-/

set_option autoImplicit false
set_option relaxedAutoImplicit false

namespace ChanceDeck.Session

/-- What is done about unused keys. -/
def policy (strict : Bool) : UnusedPolicy :=
  if strict then .fail else .warn

/-- The warning about an unused key. -/
def unusedEntry (key : Text) : LogEntry :=
  ⟨.warn, "ccd::commands".toList, "config key is not read by any command".toList,
    [("key".toList, key)]⟩

variable {m : Type → Type} [Monad m] [Host m]

/-- Reads the texts of the settings files. -/
def readLayers : List RawText → Step m (List Text)
  | [] => pure []
  | path :: rest => do
    let text ← Step.readText .settings path
    let texts ← readLayers rest
    return text :: texts

/-- Loads the settings and looks for unused keys. -/
def loadSettings (filter : LogFilter) (paths : List RawText) (strict : Bool) :
    Step m Settings := do
  let texts ← readLayers paths
  let settings ← Step.require .badLayer (Settings.ofLayers texts)
  let report ← Step.require .unusedKeys (Unused.report (policy strict) settings.document)
  Step.log filter (report.unused.map unusedEntry)
  return settings

/-- Carries out a command. -/
def perform (filter : LogFilter) (settings : Settings) : Command → Step m Unit
  | .convert flags => Conversion.run filter settings flags
  | .decode input => Inspection.run filter settings input
  | .tokenize flags => Tokenization.run filter settings flags

/-- Loads the settings and carries out the command. -/
def invoke (filter : LogFilter) (invocation : Invocation) : Step m Unit := do
  let settings ← loadSettings filter invocation.settings invocation.strict
  perform filter settings invocation.command

/-- Reports lines. -/
def reportAll : List Text → m Unit
  | [] => pure ()
  | line :: rest => do
    Host.report line
    reportAll rest

/-- The path of the file of the local environment in a folder. -/
def environmentPath (folder : Location) : RawText :=
  folder.path (Utf8.encode Environment.file)

/-- The paths of the file in the folder with these names on the way to it, last first, and in the
folders around it. -/
def environmentPaths : List Bytes → List RawText
  | [] => [environmentPath []]
  | name :: outer => environmentPath (name :: outer).reverse :: environmentPaths outer

/-- The contents of the first file that is there; a file that cannot be read ends the search. -/
def readFirst : List RawText → m (Option Bytes)
  | [] => return none
  | path :: rest => do
    match ← Host.readFile path with
    | .ok bytes => return some bytes
    | .error e => if e = .missing ∨ e = .isFolder then readFirst rest else return none

/-- Carries out what arguments ask for; the value is the status. -/
def execute (filter : LogFilter) (arguments : List RawText) : m Nat := do
  match Invocation.ofArguments? arguments with
  | none =>
    reportAll [Invocation.usage]
    return 2
  | some invocation =>
    match ← (invoke filter invocation).run with
    | .ok () => return 0
    | .error e =>
      reportAll e.explanation.report
      return 1

/-- A whole run with given arguments; its value is the status. -/
def run (arguments : List RawText) : m Nat := do
  let folder ← Host.workingFolder
  let environment ← readFirst (environmentPaths folder.reverse)
  execute (Environment.logFilter environment) arguments

end ChanceDeck.Session

namespace ChanceDeck.Machine

/-- The status of a run on a machine, and the machine that it leaves behind. -/
def run (machine : Machine) (arguments : List RawText) : Nat × Machine :=
  (Session.run arguments : StateM Machine Nat) machine

end ChanceDeck.Machine
