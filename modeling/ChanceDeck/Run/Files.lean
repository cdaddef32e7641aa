import ChanceDeck.Text.Raw

/-!
# Files by path

A path is a raw text whose parts are separated by slashes; empty parts say nothing, a lone point
leads nowhere else and two points lead back. It begins at the root if a slash stands at its front,
and at the working folder otherwise. `Folder.ofFile?` is the path of the folder that must be there
before a file can be written.

`FileTree` is all that is below the root, with the working folder as one of its places, and its
operations fail as those of an operating system do. It has folders and files, no links and no
devices, nothing in it is locked, and names may be as long as they like.
-/

set_option autoImplicit false
set_option relaxedAutoImplicit false

namespace ChanceDeck

/-- Why a file cannot be read or written. -/
inductive FileError where
  | missing
  | exists
  | notFolder
  | isFolder
  | zeroByte
  | invalidText
  | other (reason : Text)
  deriving DecidableEq, Repr

/-- The wording of a file error. -/
def FileError.message : FileError → Text
  | .missing => "No such file or directory (os error 2)".toList
  | .exists => "File exists (os error 17)".toList
  | .notFolder => "Not a directory (os error 20)".toList
  | .isFolder => "Is a directory (os error 21)".toList
  | .zeroByte => "file name contained an unexpected NUL byte".toList
  | .invalidText => "stream did not contain valid UTF-8".toList
  | .other reason => reason

/-- The byte between the parts of a path. -/
def slash : UInt8 :=
  0x2F

/-- The byte of a point. -/
def point : UInt8 :=
  0x2E

namespace Folder

/-- The bytes of a path, last first, without slashes and lone points at the end of the path. -/
def trimTail : Bytes → Bytes
  | [] => []
  | [b] => [b]
  | b :: c :: rest =>
    if b = slash ∨ b = point ∧ c = slash then trimTail (c :: rest) else b :: c :: rest

/-- The path of the folder of a file; none for a file in the working folder. -/
def ofFile? (path : RawText) : Option RawText :=
  let folder := (trimTail ((trimTail path.bytes.reverse).dropWhile (· ≠ slash))).reverse
  if folder = [] then none else some ⟨folder⟩

end Folder

/-- A place: the names on the way to it from the root. -/
abbrev Location := List Bytes

/-- The path from the root to what a path leads to from a folder. -/
def Location.path (folder : Location) (path : Bytes) : RawText :=
  ⟨folder.flatMap (slash :: ·) ++ slash :: path⟩

/-- What is at a place. -/
inductive FileEntry where
  | folder
  | file (bytes : Bytes)
  deriving DecidableEq, Repr

/-- The places below the root at which there is something, and the working folder. -/
structure FileTree where
  working : Location
  entries : List (Location × FileEntry)
  deriving DecidableEq, Repr

namespace FileTree

/-- A working folder with nothing in it. -/
def empty : FileTree :=
  ⟨[Utf8.encode "work".toList], []⟩

/-- What is at a place. The working folder and those around it are there. -/
def entry? (tree : FileTree) (location : Location) : Option FileEntry :=
  if location <+: tree.working then some .folder
  else (tree.entries.find? (·.1 = location)).map Prod.snd

/-- Puts something at a place. -/
def set (tree : FileTree) (location : Location) (entry : FileEntry) : FileTree :=
  { tree with entries := (location, entry) :: tree.entries.filter (·.1 ≠ location) }

/-- The folder from which a path leads on. -/
def origin (tree : FileTree) (path : RawText) : Location :=
  if path.bytes.head? = some slash then [] else tree.working

/-- The parts of a path between its slashes. -/
def parts (path : RawText) : List Bytes :=
  (path.bytes.splitOn slash).filter (· ≠ [])

/-- The place to which parts of a path lead from a folder, if all on the way are folders. The last
part may lead to nothing. Two points lead from the root to the root. -/
def locate (tree : FileTree) (folder : Location) : List Bytes → Except FileError Location
  | [] => .ok folder
  | part :: rest =>
    if part = [point] then tree.locate folder rest
    else if part = [point, point] then tree.locate folder.dropLast rest
    else
      let next := folder ++ [part]
      if rest = [] then .ok next
      else
        match tree.entry? next with
        | none => .error .missing
        | some (.file _) => .error .notFolder
        | some .folder => tree.locate next rest

/-- The place to which a path leads. -/
def find (tree : FileTree) (path : RawText) : Except FileError Location :=
  if 0 ∈ path.bytes then .error .zeroByte
  else if path.bytes = [] then .error .missing
  else tree.locate (tree.origin path) (parts path)

/-- The contents of a file; a slash may not stand after its name. -/
def read (tree : FileTree) (path : RawText) : Except FileError Bytes :=
  match tree.find path with
  | .error e => .error e
  | .ok location =>
    match tree.entry? location with
    | none => .error .missing
    | some .folder => .error .isFolder
    | some (.file bytes) => if path.bytes.getLast? = some slash then .error .notFolder else .ok bytes

/-- Writes a file in a folder that is there, over one that is there. -/
def write (tree : FileTree) (path : RawText) (bytes : Bytes) : Except FileError FileTree :=
  match tree.find path with
  | .error e => .error e
  | .ok location =>
    if tree.entry? location = some .folder ∨ path.bytes.getLast? = some slash then .error .isFolder
    else .ok (tree.set location (.file bytes))

/-- Makes the folder to which parts of a path lead from a folder, in a folder that is there. -/
def makeFolder (tree : FileTree) (folder : Location) (parts : List Bytes) :
    Except FileError FileTree :=
  match tree.locate folder parts with
  | .error e => .error e
  | .ok location =>
    if (tree.entry? location).isSome then .error .exists else .ok (tree.set location .folder)

/-- Whether parts of a path lead from a folder to a folder. -/
def isFolder (tree : FileTree) (folder : Location) (parts : List Bytes) : Bool :=
  match tree.locate folder parts with
  | .error _ => false
  | .ok location => tree.entry? location = some .folder

/-- Makes the folder to which parts of a path lead from a folder, unless it is there. -/
def ensureFolder (tree : FileTree) (folder : Location) (parts : List Bytes) :
    Except FileError FileTree :=
  match tree.makeFolder folder parts with
  | .ok made => .ok made
  | .error e => if tree.isFolder folder parts then .ok tree else .error e

/-- Makes the folder to which parts of a path, last first, lead from a folder, and before it those
on the way if one is missing. Folders made before a failure stay. -/
def ensureAll (tree : FileTree) (folder : Location) :
    List Bytes → Except FileError Unit × FileTree
  | [] => (.ok (), tree)
  | last :: before =>
    let parts := (last :: before).reverse
    match tree.ensureFolder folder parts with
    | .ok made => (.ok (), made)
    | .error .missing =>
      match tree.ensureAll folder before with
      | (.error e, made) => (.error e, made)
      | (.ok (), made) =>
        match made.ensureFolder folder parts with
        | .ok whole => (.ok (), whole)
        | .error e => (.error e, made)
    | .error e => (.error e, tree)

/-- Makes a folder and those on the way to it, unless they are there. -/
def makeFolders (tree : FileTree) (path : RawText) : Except FileError Unit × FileTree :=
  if 0 ∈ path.bytes then (.error .zeroByte, tree)
  else tree.ensureAll (tree.origin path) ((parts path).filter (· ≠ [point])).reverse

/-- The files in the working folder with their paths from there. -/
def files (tree : FileTree) : List (Text × Bytes) :=
  tree.entries.filterMap fun place ↦
    match place.2 with
    | .folder => none
    | .file bytes =>
      if tree.working <+: place.1 then
        some (RawText.shown ⟨[slash].intercalate (place.1.drop tree.working.length)⟩, bytes)
      else none

end FileTree

end ChanceDeck
