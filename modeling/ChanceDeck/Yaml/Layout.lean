import ChanceDeck.Yaml.Scalar.Block
import ChanceDeck.Yaml.Scalar.Plain
import ChanceDeck.Yaml.Scalar.Quoted
import ChanceDeck.Yaml.Tag

/-!
# Layout

Cutting a document into tokens. A change of indentation starts and ends block collections. A
scalar, an alias or a bracketed collection may turn out to be a key when a colon follows it in the
same line, and then a key token goes in before it, perhaps with the start of a mapping; a key may
be at most 1024 bytes long. Inside brackets indentation has no meaning.
-/

set_option autoImplicit false
set_option relaxedAutoImplicit false

namespace ChanceDeck.Yaml

/-- A token that may turn out to begin a key: the number of tokens before it, where it stands, and
whether it must be a key because it begins a line of a block collection. -/
structure PossibleKey where
  number : Nat
  place : Place
  required : Bool
  deriving DecidableEq, Repr

/-- A document of which some tokens are read: the tokens, last first, and their number; the
possible key at this level of brackets and at the levels around it; the indentation of the block
collections around, innermost first; and whether a key may begin here. -/
structure Layout where
  cursor : Cursor
  tokens : List Token
  count : Nat
  key : Option PossibleKey
  outerKeys : List (Option PossibleKey)
  indents : List Nat
  keyAllowed : Bool
  deriving Repr

namespace Layout

/-- The most bytes between the start of a key and its colon. -/
def maxKeyLength : Nat := 1024

/-- A document of which nothing is read. -/
def start (text : Text) : Layout where
  cursor := .start text
  tokens := []
  count := 0
  key := none
  outerKeys := []
  indents := []
  keyAllowed := true

/-- Whether the cursor stands inside brackets. -/
def inFlow (layout : Layout) : Bool :=
  !layout.outerKeys.isEmpty

/-- The column of the cursor. -/
def column (layout : Layout) : Nat :=
  layout.cursor.place.column

/-- The indentation of the innermost block collection. -/
def indent? (layout : Layout) : Option Nat :=
  layout.indents.head?

/-- Adds a token. -/
def push (layout : Layout) (token : Token) : Layout :=
  { layout with tokens := token :: layout.tokens, count := layout.count + 1 }

/-- Puts a token in after the first `number` tokens. -/
def insert (layout : Layout) (number : Nat) (token : Token) : Layout :=
  let later := layout.count - number
  { layout with
    tokens := layout.tokens.take later ++ token :: layout.tokens.drop later
    count := layout.count + 1 }

/-- Moves the cursor. -/
def moveTo (layout : Layout) (cursor : Cursor) : Layout :=
  { layout with cursor := cursor }

/-- Moves the cursor past some characters of the line. -/
def advance (layout : Layout) (count : Nat) : Layout :=
  layout.moveTo (layout.cursor.drop count)

/-- Says whether a key may begin here. -/
def allowKey (layout : Layout) (allowed : Bool) : Layout :=
  { layout with keyAllowed := allowed }

/-- Starts a block collection at a column that is indented more than the one around it; its token
goes in after the first `number` tokens. -/
def indentTo (layout : Layout) (column number : Nat) (token : Token) : Layout :=
  if layout.inFlow || !layout.indent?.all (· < column) then layout
  else { layout.insert number token with indents := column :: layout.indents }

/-- Ends the block collections of a list of indentations that are indented more than a column,
none being left of all columns. -/
def unindent (column : Option Nat) (layout : Layout) : List Nat → Layout
  | [] => { layout with indents := [] }
  | indent :: outer =>
    if column.all (· < indent) then unindent column (layout.push .blockEnd) outer
    else { layout with indents := indent :: outer }

/-- Ends the block collections that are indented more than a column. -/
def unindentTo (layout : Layout) (column : Option Nat) : Layout :=
  if layout.inFlow then layout else unindent column layout layout.indents

/-- Gives up the possible key at this level; a key that is required cannot be given up. -/
def dropKey? (layout : Layout) : Option Layout :=
  if layout.key.any (·.required) then none else some { layout with key := none }

/-- Makes the next token a possible key, if a key may begin here. -/
def saveKey? (layout : Layout) : Option Layout :=
  if layout.keyAllowed then
    let required := !layout.inFlow && layout.indent? = some layout.column
    layout.dropKey?.map fun layout ↦
      { layout with key := some ⟨layout.count, layout.cursor.place, required⟩ }
  else some layout

/-- Whether a colon at a place is too far from the start of a key. -/
def isStale (place : Place) (key : PossibleKey) : Bool :=
  key.place.line < place.line || key.place.index + maxKeyLength < place.index

/-- Gives up a possible key that is too far away; a key that is required cannot be given up. -/
def refreshKey? (place : Place) (key : Option PossibleKey) : Option (Option PossibleKey) :=
  if key.any (isStale place) then (if key.any (·.required) then none else some none) else some key

/-- Gives up all possible keys that are too far away. -/
def refresh? (layout : Layout) : Option Layout := do
  let key ← refreshKey? layout.cursor.place layout.key
  let outerKeys ← layout.outerKeys.mapM (refreshKey? layout.cursor.place)
  return { layout with key := key, outerKeys := outerKeys }

/-- Passes over blanks, comments and line ends from a place on. A byte order mark may begin a line,
and in a block a tabulator may not stand where a key may begin. The answer tells whether a key may
begin where the text goes on. -/
def skipGap (inFlow inComment keyAllowed : Bool) (place : Place) : Text → Bool × Cursor
  | [] => (keyAllowed, ⟨place, []⟩)
  | '\r' :: '\n' :: rest => skipGap inFlow false (keyAllowed || !inFlow) (place.newLine 2) rest
  | c :: rest =>
    if isBreak c then skipGap inFlow false (keyAllowed || !inFlow) (place.newLine c.utf8Size) rest
    else if inComment || c = ' ' || (c = '\t' && (inFlow || !keyAllowed)) ||
        (c = '\uFEFF' && place.column = 0) then
      skipGap inFlow inComment keyAllowed (place.after c) rest
    else if c = '#' then skipGap inFlow true keyAllowed (place.after c) rest
    else (keyAllowed, ⟨place, c :: rest⟩)

/-- Moves to the next token: passes over the gap before it, gives up keys that are too far away and
ends block collections. -/
def toNextToken? (layout : Layout) : Option Layout := do
  let (keyAllowed, cursor) :=
    skipGap layout.inFlow false layout.keyAllowed layout.cursor.place layout.cursor.rest
  let layout ← ({ layout with keyAllowed := keyAllowed, cursor := cursor } : Layout).refresh?
  return layout.unindentTo (some layout.column)

/-- Reads a token of three or more characters that ends all block collections. -/
def readOutermost? (layout : Layout) (token : Token) (after : Cursor) : Option Layout := do
  let layout ← (layout.unindentTo none).dropKey?
  return ((layout.allowKey false).moveTo after).push token

/-- Reads an opening bracket. -/
def openFlow? (layout : Layout) (token : Token) : Option Layout := do
  let layout ← layout.saveKey?
  let inner := { layout with outerKeys := layout.key :: layout.outerKeys, key := none }
  return ((inner.allowKey true).advance 1).push token

/-- Reads a closing bracket. -/
def closeFlow? (layout : Layout) (token : Token) : Option Layout := do
  let layout ← layout.dropKey?
  let outer :=
    match layout.outerKeys with
    | [] => layout
    | key :: outerKeys => { layout with key := key, outerKeys := outerKeys }
  return ((outer.allowKey false).advance 1).push token

/-- Reads a comma inside brackets. -/
def readFlowEntry? (layout : Layout) : Option Layout := do
  let layout ← layout.dropKey?
  return ((layout.allowKey true).advance 1).push .flowEntry

/-- Starts a block collection at the cursor, where a key or an entry must be allowed. Inside
brackets there is nothing to start. -/
def startBlock? (layout : Layout) (token : Token) : Option Layout :=
  if layout.inFlow then some layout
  else if layout.keyAllowed then some (layout.indentTo layout.column layout.count token)
  else none

/-- Reads the hyphen of an entry. -/
def readBlockEntry? (layout : Layout) : Option Layout := do
  let layout ← (← layout.startBlock? .blockSequenceStart).dropKey?
  return ((layout.allowKey true).advance 1).push .blockEntry

/-- Reads the question mark of a key. -/
def readKey? (layout : Layout) : Option Layout := do
  let layout ← (← layout.startBlock? .blockMappingStart).dropKey?
  return ((layout.allowKey (!layout.inFlow)).advance 1).push .key

/-- Reads the colon of a value. A possible key before it becomes a key. -/
def readValue? (layout : Layout) : Option Layout := do
  let layout ←
    match layout.key with
    | some key =>
      let layout := layout.insert key.number .key
      let layout := layout.indentTo key.place.column key.number .blockMappingStart
      some ({ layout with key := none }.allowKey false)
    | none => do
      let layout ← layout.startBlock? .blockMappingStart
      some (layout.allowKey (!layout.inFlow))
  return (layout.advance 1).push .value

/-- Adds a token that may be a key, or be part of one. -/
def readKeyPart? (layout : Layout) (read : Cursor → Option (Token × Cursor)) : Option Layout := do
  let layout ← layout.saveKey?
  let (token, after) ← read layout.cursor
  return ((layout.allowKey false).moveTo after).push token

/-- Reads a block scalar. -/
def readBlockScalar? (layout : Layout) : Option Layout := do
  let layout ← layout.dropKey?
  let (text, after) ← BlockScalar.read layout.indent? layout.cursor
  return ((layout.allowKey true).moveTo after).push (.scalar text false)

/-- Reads a plain scalar. -/
def readPlain? (layout : Layout) : Option Layout := do
  let layout ← layout.saveKey?
  let scalar ← PlainScalar.read layout.inFlow (layout.indent?.elim 0 (· + 1)) layout.cursor
  return ((layout.allowKey scalar.broken).moveTo scalar.cursor).push (.scalar scalar.text true)

/-- The characters that begin no plain scalar. -/
def isIndicator (c : Char) : Bool :=
  "-?:,[]\x7b\x7d#&*!|>\x27\x22%@\x60".toList.contains c

/-- Whether a plain scalar may begin with a character before a text. -/
def startsPlain (inFlow : Bool) (c : Char) (rest : Text) : Bool :=
  (!isIndicator c && !isBlank c) || (c = '-' && !rest.head?.any isBlank) ||
    (!inFlow && (c = '?' || c = ':') && !atGap rest)

/-- Reads the token at the cursor, which begins with a character before a text. -/
def readToken? (layout : Layout) (c : Char) (rest : Text) : Option Layout :=
  let outermost := layout.column = 0
  let stands := layout.inFlow || atGap rest
  if outermost && c = '%' then do
    let (token, after) ← Directive.read layout.cursor
    layout.readOutermost? token after
  else if outermost && atDocumentMark (c :: rest) then
    layout.readOutermost? (if c = '-' then .documentStart else .documentEnd)
      (layout.cursor.drop 3)
  else if c = '[' then layout.openFlow? .flowSequenceStart
  else if c = '\x7b' then layout.openFlow? .flowMappingStart
  else if c = ']' then layout.closeFlow? .flowSequenceEnd
  else if c = '\x7d' then layout.closeFlow? .flowMappingEnd
  else if c = ',' then layout.readFlowEntry?
  else if c = '-' && atGap rest then layout.readBlockEntry?
  else if c = '?' && stands then layout.readKey?
  else if c = ':' && stands then layout.readValue?
  else if c = '*' then
    layout.readKeyPart? fun cursor ↦ (Anchor.name? cursor).map fun (name, after) ↦
      (.alias name, after)
  else if c = '&' then
    layout.readKeyPart? fun cursor ↦ (Anchor.name? cursor).map fun (name, after) ↦
      (.anchor name, after)
  else if c = '!' then layout.readKeyPart? (Tag.read layout.inFlow)
  else if (c = '|' || c = '>') && !layout.inFlow then layout.readBlockScalar?
  else if c = '\x27' || c = '\x22' then
    layout.readKeyPart? fun cursor ↦ (QuotedScalar.read cursor).map fun (text, after) ↦
      (.scalar text false, after)
  else if startsPlain layout.inFlow c rest then layout.readPlain?
  else none

/-- The tokens of a document from a layout on; each step reads at least one character, so that
`fuel` need not exceed the number of characters that are left by more than one. -/
def finish? (layout : Layout) : Nat → Option (List Token)
  | 0 => none
  | fuel + 1 => do
    let layout ← layout.toNextToken?
    match layout.cursor.rest with
    | [] =>
      let layout ← (layout.unindentTo none).dropKey?
      return layout.tokens.reverse
    | c :: rest =>
      let layout ← layout.readToken? c rest
      layout.finish? fuel

end Layout

/-- The tokens of a document. -/
def Token.ofText? (text : Text) : Option (List Token) :=
  if text.all isAllowed then (Layout.start text).finish? (text.length + 1) else none

end ChanceDeck.Yaml
