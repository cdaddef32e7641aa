import ChanceDeck.Yaml.Node

/-!
# Grammar

Putting the nodes of a document together from its tokens. A text holds one document, perhaps after
directives, or none. A node may be left out before the end of an entry.
-/

set_option autoImplicit false
set_option relaxedAutoImplicit false

namespace ChanceDeck.Yaml

/-- The tokens that are left, the anchor names so far with their latest numbers, and what tag
handles stand for. -/
structure Reading where
  tokens : List Token
  anchors : List (Text × Nat)
  handles : List (Text × Bytes)
  deriving Repr

namespace Reading

/-- The token at which a reading stands. -/
def token? (reading : Reading) : Option Token :=
  reading.tokens.head?

/-- Passes over a token. -/
def skip (reading : Reading) : Reading :=
  { reading with tokens := reading.tokens.drop 1 }

/-- Whether the next token is one of some; a reading at its end is at none. -/
def isAt (reading : Reading) (tokens : List Token) : Bool :=
  reading.token?.any tokens.contains

/-- The tag of a handle and the rest after it. -/
def tag? (reading : Reading) (handle : Text) (rest : Bytes) : Option Bytes :=
  if handle = [] then some rest
  else (reading.handles.find? (·.1 = handle)).map fun entry ↦ entry.2 ++ rest

/-- The names and the tag before a node, and the reading after them. -/
def properties? (reading : Reading) : Option (Option Text × Option Bytes × Reading) :=
  match reading.tokens with
  | .anchor name :: .tag handle rest :: _ =>
    (reading.tag? handle rest).map fun tag ↦ (some name, some tag, reading.skip.skip)
  | .tag handle rest :: .anchor name :: _ =>
    (reading.tag? handle rest).map fun tag ↦ (some name, some tag, reading.skip.skip)
  | .anchor name :: _ => some (some name, none, reading.skip)
  | .tag handle rest :: _ =>
    (reading.tag? handle rest).map fun tag ↦ (none, some tag, reading.skip)
  | _ => some (none, none, reading)

/-- Numbers the anchor of a node that begins here. -/
def enter (reading : Reading) (name : Option Text) (tag : Option Bytes) : Properties × Reading :=
  match name with
  | none => (⟨none, tag⟩, reading)
  | some name =>
    let number := reading.anchors.length
    (⟨some number, tag⟩,
      { reading with anchors := (name, number) :: reading.anchors.filter (·.1 ≠ name) })

end Reading

/-- What reads a part of a document. -/
abbrev Reader (α : Type) := Reading → Option (α × Reading)

namespace Node

/-- A node that is not written, if the reading is at one of some tokens, and a written one
otherwise. -/
def orMissing (ends : List Token) (read : Reader Node) : Reader Node := fun reading ↦
  if reading.isAt ends then some (missing, reading) else read reading

/-- The value after a colon, or a missing one. -/
def valueOrMissing (ends : List Token) (read : Reader Node) : Reader Node := fun reading ↦
  if reading.isAt [.value] then orMissing ends read reading.skip else some (missing, reading)

/-- Passes over the comma between entries in brackets. -/
def separated? (first : Bool) (reading : Reading) : Option Reading :=
  if first then some reading
  else if reading.isAt [.flowEntry] then some reading.skip
  else none

/-- The items of a block sequence up to its end. -/
def blockItems (read : Reader Node) : Nat → Reader (List Node)
  | 0, _ => none
  | fuel + 1, reading =>
    if reading.isAt [.blockEnd] then some ([], reading.skip)
    else if reading.isAt [.blockEntry] then do
      let (item, reading) ← orMissing [.blockEntry, .blockEnd] read reading.skip
      let (items, reading) ← blockItems read fuel reading
      return (item :: items, reading)
    else none

/-- The items of a sequence that is not indented more than the mapping around it. -/
def indentlessItems (read : Reader Node) : Nat → Reader (List Node)
  | 0, _ => none
  | fuel + 1, reading =>
    if reading.isAt [.blockEntry] then do
      let (item, reading) ←
        orMissing [.blockEntry, .key, .value, .blockEnd] read reading.skip
      let (items, reading) ← indentlessItems read fuel reading
      return (item :: items, reading)
    else some ([], reading)

/-- The entries of a block mapping up to its end. -/
def blockEntries (read : Reader Node) : Nat → Reader (List (Node × Node))
  | 0, _ => none
  | fuel + 1, reading =>
    if reading.isAt [.blockEnd] then some ([], reading.skip)
    else if reading.isAt [.key] then do
      let (key, reading) ← orMissing [.key, .value, .blockEnd] read reading.skip
      let (value, reading) ← valueOrMissing [.key, .value, .blockEnd] read reading
      let (entries, reading) ← blockEntries read fuel reading
      return ((key, value) :: entries, reading)
    else none

/-- A mapping of one entry inside a sequence in brackets, after its key token. Where the key is
missing the token after it is passed over, whatever it is. -/
def singleEntry (read : Reader Node) : Reader Node := fun reading ↦ do
  let (key, reading) ←
    if reading.isAt [.value, .flowEntry, .flowSequenceEnd] then some (missing, reading.skip)
    else read reading
  let (value, reading) ← valueOrMissing [.flowEntry, .flowSequenceEnd] read reading
  return (.mapping ⟨none, none⟩ [(key, value)], reading)

/-- The items of a sequence in brackets up to its end. -/
def flowItems (read : Reader Node) (first : Bool) : Nat → Reader (List Node)
  | 0, _ => none
  | fuel + 1, reading =>
    if reading.isAt [.flowSequenceEnd] then some ([], reading.skip)
    else do
      let reading ← separated? first reading
      if reading.isAt [.flowSequenceEnd] then some ([], reading.skip)
      else
        let (item, reading) ←
          if reading.isAt [.key] then singleEntry read reading.skip else read reading
        let (items, reading) ← flowItems read false fuel reading
        return (item :: items, reading)

/-- The entries of a mapping in brackets up to its end. -/
def flowEntries (read : Reader Node) (first : Bool) : Nat → Reader (List (Node × Node))
  | 0, _ => none
  | fuel + 1, reading =>
    if reading.isAt [.flowMappingEnd] then some ([], reading.skip)
    else do
      let reading ← separated? first reading
      if reading.isAt [.flowMappingEnd] then some ([], reading.skip)
      else
        let (key, value, reading) ←
          if reading.isAt [.key] then do
            let (key, reading) ←
              orMissing [.value, .flowEntry, .flowMappingEnd] read reading.skip
            let (value, reading) ← valueOrMissing [.flowEntry, .flowMappingEnd] read reading
            some (key, value, reading)
          else do
            let (key, reading) ← read reading
            some (key, missing, reading)
        let (entries, reading) ← flowEntries read false fuel reading
        return ((key, value) :: entries, reading)

/-- Where a node stands: in a block, as a part of a block mapping, or in brackets. -/
inductive Context where
  | block
  | blockEntry
  | flow
  deriving DecidableEq, Repr

/-- Reads a node. Collections nest at most `depth` deep, and none has more than `fuel` parts. -/
def read (fuel : Nat) (context : Context) : Nat → Reader Node
  | 0, _ => none
  | depth + 1, reading => do
    if let some (.alias name) := reading.token? then
      let entry ← reading.anchors.find? (·.1 = name)
      return (.alias entry.2, reading.skip)
    let (name, tag, reading) ← reading.properties?
    let (properties, inner) := reading.enter name tag
    if context = .blockEntry && reading.isAt [.blockEntry] then
      let (items, reading) ← indentlessItems (read fuel .block depth) fuel inner
      return (.sequence properties items, reading)
    match reading.token? with
    | some (.scalar text plain) => return (.scalar properties text plain, inner.skip)
    | some .flowSequenceStart =>
      let (items, reading) ← flowItems (read fuel .flow depth) true fuel inner.skip
      return (.sequence properties items, reading)
    | some .flowMappingStart =>
      let (entries, reading) ← flowEntries (read fuel .flow depth) true fuel inner.skip
      return (.mapping properties entries, reading)
    | some .blockSequenceStart =>
      let (items, reading) ← blockItems (read fuel .block depth) fuel inner.skip
      return (.sequence properties items, reading)
    | some .blockMappingStart =>
      let (entries, reading) ← blockEntries (read fuel .blockEntry depth) fuel inner.skip
      return (.mapping properties entries, reading)
    | _ =>
      if name.isSome || tag.isSome then return (.scalar properties [] true, inner) else none

end Node

/-- What the directives before a document say: whether a version was given, and the handles. -/
structure Directives where
  versioned : Bool
  handles : List (Text × Bytes)
  deriving DecidableEq, Repr

namespace Directives

/-- The handles that need no directive. -/
def defaultHandles : List (Text × Bytes) :=
  [(['!'], Tag.mark), (['!', '!'], Utf8.encode "tag:yaml.org,2002:".toList)]

/-- Reads directives. Only one version may be given and each handle once, and the version must be
1.1 or 1.2. -/
def read? (directives : Directives) : List Token → Option (Directives × List Token)
  | .versionDirective major minor :: rest =>
    if directives.versioned || major ≠ 1 || (minor ≠ 1 && minor ≠ 2) then none
    else read? { directives with versioned := true } rest
  | .tagDirective handle expansion :: rest =>
    if directives.handles.any (·.1 = handle) then none
    else read? { directives with handles := (handle, expansion) :: directives.handles } rest
  | tokens => some (directives, tokens)

/-- Whether a token is a directive. -/
def isDirective : Token → Bool
  | .versionDirective _ _ => true
  | .tagDirective _ _ => true
  | _ => false

end Directives

namespace Node

/-- How deep nodes may nest before they are refused. -/
def maxDepth : Nat := 1000

/-- The node of the tokens of a document that is not empty, and the tokens after it. -/
def ofContent? (handles : List (Text × Bytes)) (tokens : List Token) : Option (Node × List Token) :=
  (read (tokens.length + 1) .block maxDepth
    ⟨tokens, [], handles ++ Directives.defaultHandles⟩).map fun (node, reading) ↦
      (node, reading.tokens)

/-- The node of a document's tokens, and the tokens after it. -/
def ofDocument? (tokens : List Token) : Option (Node × List Token) :=
  if tokens.head?.any fun token ↦ Directives.isDirective token || token = .documentStart then do
    let (directives, rest) ← Directives.read? ⟨false, []⟩ tokens
    match rest with
    | .documentStart :: rest =>
      if rest.head?.all fun token ↦
          Directives.isDirective token || token = .documentStart || token = .documentEnd then
        some (missing, rest)
      else ofContent? directives.handles rest
    | _ => none
  else ofContent? [] tokens

/-- The node of a text that holds one document, or a missing node if it holds none. -/
def ofText? (text : Text) : Option Node := do
  let tokens ← Token.ofText? text
  if tokens = [] then some missing
  else
    let (node, rest) ← ofDocument? tokens
    if rest.all (· = .documentEnd) then some node else none

end Node

end ChanceDeck.Yaml
