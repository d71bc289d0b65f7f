import Stencil.ValueFile.Yaml.Token

/-!
# Splitting a YAML text into tokens

Block collections are marked by indentation: an entry to the right of the innermost
collection starts a new one, and a token to the left of it ends it. A mapping key
without an indicator of its own, an implicit key, shows only at the colon behind it,
in the same line; the tokens for the key and for the start of its mapping are then
put in front of it. In block collections, a token at the column of the innermost
collection has to be such a key.

Tokens are taken as the text is split: a token is taken once the two tokens behind it
are there, unless it is held back because it may still be a key. A text that cannot be
split to its end still has the tokens that were taken up to there. The start of a flow
collection without a possible key of its own is held back only up to the end of that
collection. If it has been taken when the colon comes, the tokens for the key and for its
mapping come too late to stand in front of it, and are put behind the others.
-/

namespace Stencil.Yaml

/-- A token that may turn out to be an implicit key. -/
structure ImplicitKey where
  /-- The number of tokens in front of it. -/
  position : Nat := 0
  /-- The token may still be a key. -/
  possible : Bool := false
  /-- Anything but a key is an error here. -/
  required : Bool := false
  line : Nat := 0
  column : Nat := 0
  offset : Nat := 0
deriving DecidableEq

/-- What has been split so far. -/
structure Lexer where
  cursor : Cursor
  tokens : Array Token := #[]
  /-- The column of the innermost block collection, or `-1` outside of all. -/
  indent : Int := -1
  /-- The columns of the collections around it. -/
  outerIndents : List Int := []
  /-- The latest key of the innermost flow collection, or of the block if there is none. -/
  key : ImplicitKey := {}
  /-- The latest keys around the flow collections that are open. -/
  outerKeys : List ImplicitKey := []
  /-- An implicit key may start here. -/
  keyAllowed : Bool := true
  /-- Tokens that are held back, each with the number of flow collections around its key. -/
  held : List (Nat × Nat) := []
  /-- The number of tokens that have been taken. -/
  taken : Nat := 0

namespace ImplicitKey

/-- The most characters that a key may have. -/
def lengthLimit : Nat := 1024

/-- The key has become too long, or its line has ended. -/
def isStale (key : ImplicitKey) (cursor : Cursor) : Bool :=
  key.line < cursor.line || key.offset + lengthLimit < cursor.offset

end ImplicitKey

namespace Lexer

/-- A flow collection is open. -/
def inFlow (lexer : Lexer) : Bool := !lexer.outerKeys.isEmpty

/-- Adds a token. -/
def push (lexer : Lexer) (token : Token) : Lexer :=
  { lexer with tokens := lexer.tokens.push token }

/-- Puts a token in front of the one at `position`, or behind all if that one has been taken. -/
def insert (lexer : Lexer) (position : Nat) (token : Token) : Lexer :=
  if position < lexer.taken then lexer.push token
  else { lexer with tokens := lexer.tokens.insertIdxIfInBounds position token }

/-- Adds a token and moves on. -/
def emit (lexer : Lexer) (token : Token) (cursor : Cursor) : Lexer :=
  { lexer.push token with cursor }

/-! ### Keys and indentation -/

/-- No longer holds back a token. -/
def letGo (lexer : Lexer) (position : Nat) : Lexer :=
  { lexer with held := lexer.held.filter fun (other, _) => other ≠ position }

/-- Settles the latest key, which is no longer a possible one. -/
def settleKey (lexer : Lexer) : Lexer :=
  { lexer.letGo lexer.key.position with key := { lexer.key with possible := false } }

/-- Gives up the latest key if it is still possible; one that was required is an error. -/
def dropKey (lexer : Lexer) : Option Lexer :=
  if lexer.key.possible then if lexer.key.required then none else some lexer.settleKey
  else some lexer

/-- Notes the next token as a possible key, if one is allowed here. -/
def saveKey (lexer : Lexer) : Option Lexer :=
  if lexer.keyAllowed then
    lexer.dropKey.map fun dropped =>
      { dropped with
        key :=
          { position := lexer.tokens.size
            possible := true
            required := !lexer.inFlow && lexer.indent = lexer.cursor.column
            line := lexer.cursor.line
            column := lexer.cursor.column
            offset := lexer.cursor.offset }
        held := (lexer.tokens.size, lexer.outerKeys.length) :: dropped.held }
  else some lexer

/-- Starts a block collection in front of the token at `position`, if its column lies deeper. -/
def openBlock (lexer : Lexer) (column position : Nat) (token : Token) : Lexer :=
  if !lexer.inFlow && lexer.indent < column then
    { lexer.insert position token with
      indent := column
      outerIndents := lexer.indent :: lexer.outerIndents }
  else lexer

/-- Ends the block collections that lie deeper than a column. -/
def closeBlocksTo (column : Int) (indent : Int) (tokens : Array Token) :
    List Int → Int × List Int × Array Token
  | [] => (indent, [], tokens)
  | outer :: others =>
    if column < indent then closeBlocksTo column outer (tokens.push .blockEnd) others
    else (indent, outer :: others, tokens)

/-- Ends the block collections that lie deeper than a column, outside of flow collections. -/
def closeBlocks (lexer : Lexer) (column : Int) : Lexer :=
  if lexer.inFlow then lexer
  else
    let (indent, outerIndents, tokens) :=
      closeBlocksTo column lexer.indent lexer.tokens lexer.outerIndents
    { lexer with indent, outerIndents, tokens }

/--
Moves over gaps and comments to the next token, and at the start of a line over what
counts as a byte order mark. Where a key may start in a block, tabs are no gaps. After a
break, a key may start in a block.
-/
def skipGap : Nat → Lexer → Lexer
  | 0, lexer => lexer
  | fuel + 1, lexer =>
    let tabs := lexer.inFlow || !lexer.keyAllowed
    let start := lexer.cursor.passMark.skipWhile fun character =>
      character = ' ' || (tabs && character = '\t')
    let cursor := if start.sees '#' then start.skipComments start.rest.length else start
    match cursor.rest with
    | [] => { lexer with cursor }
    | character :: _ =>
      if isBreak character then
        skipGap fuel
          { lexer with cursor := cursor.next, keyAllowed := lexer.keyAllowed || !lexer.inFlow }
      else { lexer with cursor }

/-! ### Tokens -/

/-- Reads a token that stands at the start of a line and ends everything before it. -/
def readLineToken (lexer : Lexer) (token : Token) (cursor : Cursor) : Option Lexer :=
  (lexer.closeBlocks (-1)).dropKey.map fun lexer =>
    { lexer.emit token cursor with keyAllowed := false }

/-- Reads the start of a flow collection, which may be part of a key. -/
def readFlowStart (lexer : Lexer) (token : Token) : Option Lexer :=
  lexer.saveKey.map fun lexer =>
    { lexer.emit token lexer.cursor.next with
      key := { position := lexer.tokens.size }
      outerKeys := lexer.key :: lexer.outerKeys
      keyAllowed := true }

/-- Leaves a flow collection, if one is open. -/
def leaveFlow (lexer : Lexer) : Lexer :=
  match lexer.outerKeys with
  | [] => lexer
  | key :: outerKeys => { lexer.letGo lexer.key.position with key, outerKeys }

/-- Reads the end of a flow collection. -/
def readFlowEnd (lexer : Lexer) (token : Token) : Option Lexer :=
  lexer.dropKey.map fun lexer =>
    { lexer.leaveFlow.emit token lexer.cursor.next with keyAllowed := false }

/-- Reads the comma between entries of a flow collection. -/
def readFlowEntry (lexer : Lexer) : Option Lexer :=
  lexer.dropKey.map fun lexer =>
    { lexer.emit .flowEntry lexer.cursor.next with keyAllowed := true }

/-- Reads the dash of an entry of a block sequence. -/
def readBlockEntry (lexer : Lexer) : Option Lexer :=
  if lexer.inFlow || lexer.keyAllowed then
    (lexer.openBlock lexer.cursor.column lexer.tokens.size .blockSequenceStart).dropKey.map
      fun lexer => { lexer.emit .blockEntry lexer.cursor.next with keyAllowed := true }
  else none

/-- Reads the indicator of a key. -/
def readKey (lexer : Lexer) : Option Lexer :=
  if lexer.inFlow || lexer.keyAllowed then
    (lexer.openBlock lexer.cursor.column lexer.tokens.size .blockMappingStart).dropKey.map
      fun lexer => { lexer.emit .key lexer.cursor.next with keyAllowed := !lexer.inFlow }
  else none

/-- Reads the colon behind a key that has an indicator or is missing. -/
def readLoneValue (lexer : Lexer) : Option Lexer :=
  if lexer.inFlow || lexer.keyAllowed then
    let lexer := lexer.openBlock lexer.cursor.column lexer.tokens.size .blockMappingStart
    some { lexer.emit .value lexer.cursor.next with keyAllowed := !lexer.inFlow }
  else none

/-- Reads a colon; the possible key in front of it becomes one, unless it is stale. -/
def readValue (lexer : Lexer) : Option Lexer :=
  let key := lexer.key
  if !key.possible then lexer.readLoneValue
  else if key.isStale lexer.cursor then
    if key.required then none
    else { lexer with key := { key with possible := false } }.readLoneValue
  else
    let opened :=
      (lexer.insert key.position .key).openBlock key.column key.position .blockMappingStart
    some { opened.settleKey.emit .value lexer.cursor.next with keyAllowed := false }

/-- Reads an anchor, a reference or a tag, which may be part of a key. -/
def readProperty (lexer : Lexer) (property? : Option (Token × Cursor)) : Option Lexer := do
  let lexer ← lexer.saveKey
  let (token, cursor) ← property?
  return { lexer.emit token cursor with keyAllowed := false }

/-- Adds a scalar that has been read. -/
def emitScalar (lexer : Lexer) (scalar : ReadScalar) (plain : Bool) : Lexer :=
  lexer.emit (.scalar (String.ofList scalar.text) plain) scalar.cursor

/-- Reads a quoted scalar, which may be a key. -/
def readQuoted (lexer : Lexer) (quote : Char) : Option Lexer := do
  let lexer ← lexer.saveKey
  let scalar ← Scalar.quoted quote lexer.cursor
  return { lexer.emitScalar scalar false with keyAllowed := false }

/-- Reads a block scalar. -/
def readBlockScalar (lexer : Lexer) (literal : Bool) : Option Lexer := do
  let lexer ← lexer.dropKey
  let scalar ← Scalar.block literal lexer.indent lexer.cursor
  return { lexer.emitScalar scalar false with keyAllowed := true }

/-- Reads a plain scalar, which may be a key. -/
def readPlain (lexer : Lexer) : Option Lexer := do
  let lexer ← lexer.saveKey
  let scalar ← Scalar.plain lexer.inFlow (lexer.indent + 1) lexer.cursor
  return { lexer.emitScalar scalar true with keyAllowed := scalar.endsLine }

/-- Characters that cannot start a plain scalar, or only if no gap follows them. -/
def indicators : List Char :=
  ['-', '?', ':', ',', '[', ']', '\x7b', '\x7d', '#', '&', '*', '!', '|', '>', singleQuote,
    doubleQuote, '%', '@', '\x60']

/-- A plain scalar may start with a character, `rest` being what follows it. -/
def startsPlain (flow : Bool) (character : Char) (rest : List Char) : Bool :=
  (!isGap character && !indicators.contains character) ||
    (character = '-' && !gapFollows rest) ||
    (!flow && (character = '?' || character = ':') && !gapFollows rest)

/-- Moves over a comment behind a token in the same line. -/
def skipLineComment (lexer : Lexer) : Lexer :=
  { lexer with cursor := lexer.cursor.skipLineComment }

/-- Reads a token inside a line that starts with a character. -/
def readInLine (lexer : Lexer) (character : Char) (rest : List Char) : Option Lexer :=
  let cursor := lexer.cursor
  if character = '[' then (lexer.readFlowStart .flowSequenceStart).map skipLineComment
  else if character = '\x7b' then (lexer.readFlowStart .flowMappingStart).map skipLineComment
  else if character = ']' then (lexer.readFlowEnd .flowSequenceEnd).map skipLineComment
  else if character = '\x7d' then (lexer.readFlowEnd .flowMappingEnd).map skipLineComment
  else if character = ',' then lexer.readFlowEntry.map skipLineComment
  else if character = '-' && gapFollows rest then lexer.readBlockEntry
  else if character = '?' && (lexer.inFlow || gapFollows rest) then
    lexer.readKey.map skipLineComment
  else if character = ':' && (lexer.inFlow || gapFollows rest) then
    lexer.readValue.map skipLineComment
  else if character = '*' then
    (lexer.readProperty ((Token.name? cursor).map fun (name, final) =>
      (.reference name, final))).map skipLineComment
  else if character = '&' then
    (lexer.readProperty ((Token.name? cursor).map fun (name, final) =>
      (.anchor name, final))).map skipLineComment
  else if character = '!' then (lexer.readProperty (Token.tag? cursor)).map skipLineComment
  else if (character = '|' || character = '>') && !lexer.inFlow then
    lexer.readBlockScalar (character = '|')
  else if character = singleQuote || character = doubleQuote then
    (lexer.readQuoted character).map skipLineComment
  else if startsPlain lexer.inFlow character rest then
    lexer.readPlain.map fun after =>
      if after.keyAllowed then after else after.skipLineComment
  else none

/-- Reads the next token. -/
def readToken (lexer : Lexer) (character : Char) (rest : List Char) : Option Lexer :=
  let cursor := lexer.cursor
  if cursor.column = 0 && character = '%' then do
    let (token, final) ← Token.directive? cursor
    lexer.readLineToken token final
  else if cursor.atTriple '-' then lexer.readLineToken .documentStart (cursor.skip 3)
  else if cursor.atTriple '.' then lexer.readLineToken .documentEnd (cursor.skip 3)
  else lexer.readInLine character rest

/-! ### Texts -/

/-- The number of tokens that have to follow a token before it can be taken. -/
def lookahead : Nat := 2

/-- The next token can be taken, unless it is held back. -/
def isFollowed (lexer : Lexer) : Bool := lexer.taken + lookahead < lexer.tokens.size

/-- The possible key for which the next token is held back. -/
def heldFor? (lexer : Lexer) : Option ImplicitKey :=
  match lexer.held.lookup lexer.taken with
  | none => none
  | some depth => ((lexer.key :: lexer.outerKeys).reverse[depth]?).filter ImplicitKey.possible

/-- The next token is held back: its key is not stale, or it cannot do without a key. -/
def isHeld (lexer : Lexer) : Bool :=
  lexer.heldFor?.any fun key => key.required || !key.isStale lexer.cursor

/-- The next token has to be a key and can no longer be one. -/
def isStuck (lexer : Lexer) : Bool :=
  lexer.isFollowed && lexer.heldFor?.any fun key => key.required && key.isStale lexer.cursor

/-- Takes the tokens that can be taken. -/
def take : Nat → Lexer → Lexer
  | 0, lexer => lexer
  | fuel + 1, lexer =>
    if lexer.isFollowed && !lexer.isHeld then take fuel { lexer with taken := lexer.taken + 1 }
    else lexer

/-- The tokens that have been taken. -/
def takenTokens (lexer : Lexer) : List Token := lexer.tokens.toList.take lexer.taken

/-- What has been split, unless characters were required that cannot be fetched. -/
def intact? (lexer : Lexer) : Option Lexer :=
  if lexer.cursor.window.failed then none else some lexer

/-- Splits the rest of a text: gives the tokens that can be taken. -/
def run : Nat → Lexer → List Token
  | 0, lexer => lexer.takenTokens
  | fuel + 1, lexer =>
    let lexer := lexer.take lexer.tokens.size
    if lexer.isStuck then lexer.takenTokens
    else
      let start := lexer.skipGap (lexer.cursor.rest.length + 1)
      let start := start.closeBlocks start.cursor.column
      let start := { start with cursor := start.cursor.require Cursor.markerLength }
      match start.cursor.rest with
      | [] =>
        match (start.closeBlocks (-1)).dropKey.bind intact? with
        | some final => (final.push .streamEnd).tokens.toList
        | none => lexer.takenTokens
      | character :: rest =>
        match (start.readToken character rest).bind intact? with
        | some after => run fuel after
        | none => lexer.takenTokens

/-- The tokens of a text. -/
def tokensOf (text : List Char) : List Token :=
  run (text.length + 1) { cursor := .ofText text }

end Lexer

end Stencil.Yaml
