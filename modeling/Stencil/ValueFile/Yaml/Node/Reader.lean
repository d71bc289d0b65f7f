import Stencil.ValueFile.Yaml.Node
import Stencil.ValueFile.Yaml.Token

/-!
# The nodes that tokens stand for

Reading is recursive in the nesting of collections. Every call of a function below
that does not read a token is followed by one that does, so a multiple of the number
of tokens bounds the depth of the recursion.

Only the first document is read. What follows it is not looked at, except for the
token behind it, which has to be readable.
-/

namespace Stencil.Yaml

/-- What is left to read, and the anchors so far, the latest first. -/
structure Reading where
  tokens : List Token
  /-- A node that is not complete yet has none. -/
  anchors : List (String × Option Node) := []
  /-- Handles of tags, and what they stand for. -/
  handles : List (String × String) := []

/-- Readers take tokens, or refuse them. -/
abbrev Reader := StateT Reading Option

namespace Reader

/-- The next token. -/
def peek : Reader Token := do
  match (← get).tokens with
  | token :: _ => return token
  | [] => failure

/-- Moves on to the next token. -/
def skip : Reader Unit :=
  modify fun reading => { reading with tokens := reading.tokens.tail }

/-- Moves on, and gives the token then. -/
def advance : Reader Token := do
  skip
  peek

/-! ### Properties of nodes -/

/-- The start of the tags of the format itself. -/
def commonTags : String := "tag:yaml.org,2002:"

/-- The handles that need no directive. -/
def commonHandles : List (String × String) := [("!", "!"), ("!!", commonTags)]

/-- The short form of a tag. A lone mark says nothing and counts as no tag. -/
def shortTag (tag : String) : String :=
  if commonTags.toList.isPrefixOf tag.toList then
    "!!" ++ String.ofList (tag.toList.drop commonTags.length)
  else if tag = "!" then ""
  else tag

/-- The tag that a handle and a suffix stand for. -/
def tagOf (handle suffix : String) : Reader String := do
  if handle = "" then return suffix
  else
    match (← get).handles.lookup handle with
    | some start => return start ++ suffix
    | none => failure

/-- The properties of a node: its anchor and its tag. -/
structure Properties where
  anchor : Option String := none
  tag : Option String := none

/-- Reads the properties in front of a node, in either order. -/
def properties : Reader Properties := do
  match ← peek with
  | .anchor name =>
    match ← advance with
    | .tag handle suffix =>
      skip
      return { anchor := some name, tag := some (← tagOf handle suffix) }
    | _ => return { anchor := some name }
  | .tag handle suffix =>
    match ← advance with
    | .anchor name =>
      skip
      return { anchor := some name, tag := some (← tagOf handle suffix) }
    | _ => return { tag := some (← tagOf handle suffix) }
  | _ => return {}

/-- Notes the anchor of a scalar. -/
def anchorScalar (anchor : Option String) (node : Node) : Reader Node := do
  match anchor with
  | none => return node
  | some name =>
    modify fun reading => { reading with anchors := (name, some node) :: reading.anchors }
    return node

/-- Notes the anchor of a collection before it is read, and the node afterwards. -/
def anchorCollection (anchor : Option String) (reader : Reader Node) : Reader Node := do
  match anchor with
  | none => reader
  | some name =>
    let outer := (← get).anchors
    modify fun reading => { reading with anchors := (name, none) :: outer }
    let node ← reader
    modify fun reading =>
      let later := reading.anchors.take (reading.anchors.length - outer.length - 1)
      { reading with anchors := later ++ (name, some node) :: outer }
    return node

/-- The node that a name refers to. -/
def referenceTo (name : String) : Reader Node := do
  match (← get).anchors.lookup name with
  | some target => return .reference name target
  | none => failure

/-- The token ends an entry of a block mapping. -/
def endsBlockEntry (token : Token) : Bool :=
  token = .key || token = .value || token = .blockEnd

/-- The token ends an entry of the flow collection that ends in `final`. -/
def endsFlowEntry (final token : Token) : Bool := token = .flowEntry || token = final

/-! ### Nodes -/

mutual

/--
Reads a node. Block collections are allowed if `block` is set, and a sequence whose
dashes are not indented if `indentless` is.
-/
def node (block indentless : Bool) : Nat → Reader Node
  | 0 => failure
  | fuel + 1 => do
    match ← peek with
    | .reference name =>
      skip
      referenceTo name
    | _ =>
      let given ← properties
      let tag := shortTag (given.tag.getD "")
      let token ← peek
      match token with
      | .scalar text plain =>
        skip
        anchorScalar given.anchor (.scalar text plain tag)
      | .flowSequenceStart =>
        skip
        anchorCollection given.anchor (.sequence <$> flowItems true fuel)
      | .flowMappingStart =>
        skip
        anchorCollection given.anchor (.mapping <$> flowEntries true fuel)
      | _ =>
        if indentless && token = .blockEntry then
          anchorCollection given.anchor (.sequence <$> indentlessItems fuel)
        else if block && token = .blockSequenceStart then
          skip
          anchorCollection given.anchor (.sequence <$> blockItems fuel)
        else if block && token = .blockMappingStart then
          skip
          anchorCollection given.anchor (.mapping <$> blockEntries fuel)
        else if given.anchor.isSome || given.tag.isSome then
          anchorScalar given.anchor (.scalar "" true tag)
        else failure

/-- Reads the entries of a block sequence. -/
def blockItems : Nat → Reader (List Node)
  | 0 => failure
  | fuel + 1 => do
    match ← peek with
    | .blockEntry =>
      let token ← advance
      let item ←
        if token = .blockEntry || token = .blockEnd then pure .missing else node true false fuel
      return item :: (← blockItems fuel)
    | .blockEnd =>
      skip
      return []
    | _ => failure

/-- Reads the entries of a sequence that is not indented. -/
def indentlessItems : Nat → Reader (List Node)
  | 0 => failure
  | fuel + 1 => do
    match ← peek with
    | .blockEntry =>
      let token ← advance
      let item ←
        if token = .blockEntry || endsBlockEntry token then pure .missing
        else node true false fuel
      return item :: (← indentlessItems fuel)
    | _ => return []

/-- Reads the value of an entry of a block mapping; it may be missing. -/
def blockValue : Nat → Reader Node
  | 0 => failure
  | fuel + 1 => do
    match ← peek with
    | .value =>
      let token ← advance
      if endsBlockEntry token then return .missing else node true true fuel
    | _ => return .missing

/-- Reads the entries of a block mapping. -/
def blockEntries : Nat → Reader (List (Node × Node))
  | 0 => failure
  | fuel + 1 => do
    match ← peek with
    | .key =>
      let token ← advance
      let key ← if endsBlockEntry token then pure .missing else node true true fuel
      let value ← blockValue fuel
      return (key, value) :: (← blockEntries fuel)
    | .blockEnd =>
      skip
      return []
    | _ => failure

/-- Reads the value of an entry of a flow collection that ends in `final`; it may be missing. -/
def flowValue (final : Token) : Nat → Reader Node
  | 0 => failure
  | fuel + 1 => do
    match ← peek with
    | .value =>
      let token ← advance
      if endsFlowEntry final token then return .missing else node false false fuel
    | _ => return .missing

/-- Reads an item of a flow sequence that is a mapping with one entry. -/
def flowPair : Nat → Reader Node
  | 0 => failure
  | fuel + 1 => do
    let token ← peek
    let key ←
      if token = .value || endsFlowEntry .flowSequenceEnd token then do
        skip
        pure .missing
      else node false false fuel
    let value ← flowValue .flowSequenceEnd fuel
    let _ ← peek
    return .mapping [(key, value)]

/-- Reads the items of a flow sequence. -/
def flowItems (first : Bool) : Nat → Reader (List Node)
  | 0 => failure
  | fuel + 1 => do
    let token ← peek
    if token = .flowSequenceEnd then
      skip
      return []
    else
      let token ←
        if first then pure token else if token = .flowEntry then advance else failure
      if token = .flowSequenceEnd then
        skip
        return []
      else
        let item ←
          if token = .key then do
            skip
            flowPair fuel
          else node false false fuel
        return item :: (← flowItems false fuel)

/-- Reads the entries of a flow mapping. -/
def flowEntries (first : Bool) : Nat → Reader (List (Node × Node))
  | 0 => failure
  | fuel + 1 => do
    let token ← peek
    if token = .flowMappingEnd then
      skip
      return []
    else
      let token ←
        if first then pure token else if token = .flowEntry then advance else failure
      if token = .flowMappingEnd then
        skip
        return []
      else
        let entry ←
          if token = .key then do
            let token ← advance
            let key ←
              if token = .value || endsFlowEntry .flowMappingEnd token then pure .missing
              else node false false fuel
            pure (key, ← flowValue .flowMappingEnd fuel)
          else do
            let key ← node false false fuel
            let _ ← peek
            pure (key, .missing)
        return entry :: (← flowEntries false fuel)

end

/-! ### Documents -/

/-- Reads directives; there may be one version, and each handle may be given once. -/
def directives : Nat → Bool → List (String × String) → Reader (List (String × String))
  | 0, _, _ => failure
  | fuel + 1, versioned, handles => do
    match ← peek with
    | .version major minor =>
      if versioned || major ≠ 1 || minor ≠ 1 then failure
      else
        skip
        directives fuel true handles
    | .tagDirective handle start =>
      if (handles.lookup handle).isSome then failure
      else
        skip
        directives fuel versioned ((handle, start) :: handles)
    | _ => return handles

/-- The token is part of the start of a document. -/
def startsDocument : Token → Bool
  | .version _ _ => true
  | .tagDirective _ _ => true
  | .documentStart => true
  | _ => false

/-- Reads the content of a document that was started by a marker. -/
def markedContent (fuel : Nat) : Reader Node := do
  let token ← advance
  if startsDocument token || token = .documentEnd || token = .streamEnd then return .missing
  else node true false fuel

/-- Reads the first document; a text without one counts as a missing node. -/
def document (fuel : Nat) : Reader Node := do
  let first ← peek
  if first = .streamEnd then return .missing
  else
    let handles ← directives fuel false []
    modify fun reading => { reading with handles := handles ++ commonHandles }
    let token ← peek
    let node ←
      if token = .documentStart then markedContent fuel
      else if startsDocument first then failure
      else node true false fuel
    let _ ← peek
    return node

/-- The node of the first document that tokens stand for. -/
def nodeOf? (tokens : List Token) : Option Node :=
  (document (4 * tokens.length + 4) { tokens }).map Prod.fst

end Reader

end Stencil.Yaml
