import ChanceDeck.Run.Host

/-!
# Machines

A machine is a tree of files together with what was printed and what was reported. It is a host
whose runs are functions: a run takes a machine to the machine that it leaves behind.
-/

set_option autoImplicit false
set_option relaxedAutoImplicit false

namespace ChanceDeck

/-- Files, the results and the lines of the reports. -/
structure Machine where
  files : FileTree
  results : Text
  reports : List Text
  deriving DecidableEq, Repr

namespace Machine

/-- A machine on which nothing has run yet. -/
def ofFiles (files : FileTree) : Machine :=
  ⟨files, [], []⟩

instance : Host (StateM Machine) where
  workingFolder := fun machine ↦ (machine.files.working, machine)
  readFile path := fun machine ↦ (machine.files.read path, machine)
  makeFolders path := fun machine ↦
    let (result, files) := machine.files.makeFolders path
    (result, { machine with files := files })
  writeFile path bytes := fun machine ↦
    match machine.files.write path bytes with
    | .error e => (.error e, machine)
    | .ok files => (.ok (), { machine with files := files })
  print text := fun machine ↦ ((), { machine with results := machine.results ++ text })
  report line := fun machine ↦ ((), { machine with reports := machine.reports ++ [line] })

end Machine

end ChanceDeck
