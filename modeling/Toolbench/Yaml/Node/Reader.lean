import Toolbench.Yaml.Node
import Toolbench.Yaml.Token.Lexer

/-!
# Reading YAML nodes

Reads the one document of a stream from its tokens; fails where a token is out of
place.
-/

namespace Toolbench

namespace Yaml

structure Reader where
  tokens : List Token
  /-- What tag handles stand for. -/
  handles : List (String × Tag) := []
  /-- The numbers of the anchors, by name. -/
  names : List (String × Nat) := []
  /-- How many anchors were started. -/
  started : Nat := 0
  /-- The anchored nodes: number, rank in the order of their starts, and node. -/
  anchored : List (Nat × Nat × Node) := []

abbrev Reading (α : Type) := StateT Reader Option α

namespace Reader

def peek : Reading (Option Token) := do
  return (← get).tokens.head?

def skip : Reading Unit :=
  modify fun r => { r with tokens := r.tokens.drop 1 }

/-- Numbers an anchor by the count of names before it, and ranks it. -/
def startAnchor (name : String) : Reading (Nat × Nat) :=
  modifyGet fun r =>
    let number := r.names.length
    let others := r.names.filter fun entry => entry.1 != name
    ((number, r.started),
      { r with names := (name, number) :: others, started := r.started + 1 })

def keepAnchor (anchor : Option (Nat × Nat)) (node : Node) : Reading Unit :=
  match anchor with
  | none => pure ()
  | some (number, rank) =>
      modify fun r => { r with anchored := (number, rank, node) :: r.anchored }

/-- Of the nodes with one number, the one that started last. -/
def anchors (r : Reader) : List (Nat × Node) :=
  let later := fun (a b : Nat × Nat × Node) => decide (b.2.1 ≤ a.2.1)
  (r.anchored.mergeSort later).map fun (number, _, node) => (number, node)

def resolveTag (handle : String) (suffix : Tag) : Reading Tag := do
  if handle.isEmpty then return suffix
  return (← ((← get).handles.lookup handle : Option Tag)) ++ suffix

structure Properties where
  anchor : Option String := none
  /-- The handle and the suffix of the tag. -/
  tag : Option (String × Tag) := none

/-- Reads an anchor and a tag, in either order. -/
def readProperties : Reading Properties := do
  match ← peek with
  | some (.anchor name) =>
      skip
      match ← peek with
      | some (.tag handle suffix) => do
          skip
          return { anchor := some name, tag := some (handle, suffix) }
      | _ => return { anchor := some name }
  | some (.tag handle suffix) =>
      skip
      match ← peek with
      | some (.anchor name) => do
          skip
          return { anchor := some name, tag := some (handle, suffix) }
      | _ => return { tag := some (handle, suffix) }
  | _ => return {}

/-- Whether a node that should stand before the token is not spelled, in a block. -/
def endsBlockNode : Token → Bool
  | .key | .value | .blockEnd => true
  | _ => false

def endsBlockItem : Token → Bool
  | .blockEntry | .blockEnd => true
  | _ => false

/-- Whether a sequence without indentation does not spell the node in front of the token. -/
def endsIndentlessItem (token : Token) : Bool :=
  endsBlockNode token || token = .blockEntry

def endsFlowNode (close token : Token) : Bool :=
  token = .flowEntry || token = close

mutual

/-- Reads a node, or an empty one where the next token ends it. -/
def readOrEmpty (ends : Token → Bool) (inBlock indentless : Bool) : Nat → Reading Node
  | 0 => failure
  | fuel + 1 => do
      match ← peek with
      | some token => if ends token then pure .empty else readNode inBlock indentless fuel
      | none => failure

def readNode (inBlock indentless : Bool) : Nat → Reading Node
  | 0 => failure
  | fuel + 1 => do
      match ← peek with
      | some (.alias name) =>
          skip
          return .alias (← ((← get).names.lookup name : Option Nat))
      | _ =>
          let properties ← readProperties
          let tag ← properties.tag.mapM fun (handle, suffix) => resolveTag handle suffix
          let bare := properties.anchor.isNone && properties.tag.isNone
          let anchor ← properties.anchor.mapM startAnchor
          let node ← readContent inBlock indentless bare tag fuel
          keepAnchor anchor node
          return node

def readContent (inBlock indentless bare : Bool) (tag : Option Tag) : Nat → Reading Node
  | 0 => failure
  | fuel + 1 => do
      match ← peek with
      | some (.scalar style text) =>
          skip
          pure (.scalar tag style text)
      | some .flowSequenceStart =>
          skip
          return .sequence tag (← readFlowItems true fuel)
      | some .flowMappingStart =>
          skip
          return .mapping tag (← readFlowEntries true fuel)
      | some token =>
          if token = .blockEntry && indentless then
            return .sequence tag (← readIndentlessItems fuel)
          else if token = .blockSequenceStart && inBlock then do
            skip
            return .sequence tag (← readBlockItems fuel)
          else if token = .blockMappingStart && inBlock then do
            skip
            return .mapping tag (← readBlockEntries fuel)
          else if bare then failure
          else pure (.scalar tag .plain "")
      | none => failure

def readBlockItems : Nat → Reading (List Node)
  | 0 => failure
  | fuel + 1 => do
      match ← peek with
      | some .blockEntry =>
          skip
          let item ← readOrEmpty endsBlockItem true false fuel
          return item :: (← readBlockItems fuel)
      | some .blockEnd =>
          skip
          return []
      | _ => failure

/-- Reads the items of a sequence that is indented like the mapping around it. -/
def readIndentlessItems : Nat → Reading (List Node)
  | 0 => failure
  | fuel + 1 => do
      match ← peek with
      | some .blockEntry =>
          skip
          let item ← readOrEmpty endsIndentlessItem true false fuel
          return item :: (← readIndentlessItems fuel)
      | some _ => return []
      | none => failure

def readBlockEntries : Nat → Reading (List (Node × Node))
  | 0 => failure
  | fuel + 1 => do
      match ← peek with
      | some .key =>
          skip
          let key ← readOrEmpty endsBlockNode true true fuel
          let value ← readValue endsBlockNode true fuel
          return (key, value) :: (← readBlockEntries fuel)
      | some .blockEnd =>
          skip
          return []
      | _ => failure

/-- Reads the value of an entry, which is empty if there is no indicator of it. -/
def readValue (ends : Token → Bool) (inBlock : Bool) : Nat → Reading Node
  | 0 => failure
  | fuel + 1 => do
      match ← peek with
      | some .value =>
          skip
          readOrEmpty ends inBlock inBlock fuel
      | some _ => pure .empty
      | none => failure

def readFlowItems (first : Bool) : Nat → Reading (List Node)
  | 0 => failure
  | fuel + 1 => do
      match ← peek with
      | some .flowSequenceEnd =>
          skip
          return []
      | some .flowEntry =>
          if first then failure
          else
            skip
            readFlowItem fuel
      | some _ => if first then readFlowItem fuel else failure
      | none => failure

def readFlowItem : Nat → Reading (List Node)
  | 0 => failure
  | fuel + 1 => do
      match ← peek with
      | some .flowSequenceEnd =>
          skip
          return []
      | some .key =>
          skip
          let pair ← readFlowPair fuel
          return pair :: (← readFlowItems false fuel)
      | some _ =>
          let item ← readNode false false fuel
          return item :: (← readFlowItems false fuel)
      | none => failure

/-- Reads a mapping of one entry in brackets; the token behind a missing key is passed over. -/
def readFlowPair : Nat → Reading Node
  | 0 => failure
  | fuel + 1 => do
      let ends := endsFlowNode .flowSequenceEnd
      match ← peek with
      | none => failure
      | some token =>
          if ends token || token = .value then
            skip
            let value ← readValue ends false fuel
            return .mapping none [(.empty, value)]
          else
            let key ← readNode false false fuel
            let value ← readValue ends false fuel
            return .mapping none [(key, value)]

def readFlowEntries (first : Bool) : Nat → Reading (List (Node × Node))
  | 0 => failure
  | fuel + 1 => do
      match ← peek with
      | some .flowMappingEnd =>
          skip
          return []
      | some .flowEntry =>
          if first then failure
          else
            skip
            readFlowEntry fuel
      | some _ => if first then readFlowEntry fuel else failure
      | none => failure

def readFlowEntry : Nat → Reading (List (Node × Node))
  | 0 => failure
  | fuel + 1 => do
      let ends := endsFlowNode .flowMappingEnd
      match ← peek with
      | some .flowMappingEnd =>
          skip
          return []
      | some .key =>
          skip
          let key ← readOrEmpty (fun token => ends token || token = .value) false false fuel
          let value ← readValue ends false fuel
          return (key, value) :: (← readFlowEntries false fuel)
      | some _ =>
          let key ← readNode false false fuel
          let value ← match ← peek with
            | some _ => pure .empty
            | none => failure
          return (key, value) :: (← readFlowEntries false fuel)
      | none => failure

end

def defaultHandles : List (String × Tag) :=
  [("!", Text.Utf8.encode "!"), ("!!", Text.Utf8.encode "tag:yaml.org,2002:")]

/-- Reads directives; fails at one that is out of order. -/
def readDirectives : List Token → Bool → List (String × Tag) →
    Option (List Token × List (String × Tag))
  | .versionDirective major minor :: rest, versioned, handles =>
      if versioned || major ≠ 1 || (minor ≠ 1 && minor ≠ 2) then none
      else readDirectives rest true handles
  | .tagDirective handle tagPrefix :: rest, versioned, handles =>
      if (handles.lookup handle).isSome then none
      else readDirectives rest versioned (handles ++ [(handle, tagPrefix)])
  | tokens, _, handles => some (tokens, handles ++ defaultHandles)

def isBetweenDocuments : Token → Bool
  | .versionDirective _ _ | .tagDirective _ _ | .documentStart | .documentEnd | .streamEnd => true
  | _ => false

/-- The tokens from the root of the first document on, after its directives. -/
def readStart (tokens : List Token) : Option Reader :=
  match tokens with
  | [] => none
  | .documentEnd :: _ => none
  | first :: _ =>
      if isBetweenDocuments first then
        match readDirectives tokens false [] with
        | some (.documentStart :: rest, handles) => some { tokens := rest, handles }
        | _ => none
      else some { tokens, handles := defaultHandles }

/-- How many steps reading may take; every token is met by few of them. -/
def enough (tokens : List Token) : Nat :=
  8 * tokens.length + 8

def endsStream (tokens : List Token) : Bool :=
  match tokens.dropWhile (· = .documentEnd) with
  | .streamEnd :: _ => true
  | _ => false

end Reader

/-- The one document of a stream; a stream without one has an empty scalar. -/
def Document.ofTokens? (tokens : List Token) : Option Document :=
  match tokens with
  | .streamEnd :: _ => some { root := .empty }
  | _ => do
      let reader ← Reader.readStart tokens
      let (root, reader) ←
        (Reader.readOrEmpty Reader.isBetweenDocuments true false (Reader.enough tokens)).run
          reader
      if Reader.endsStream reader.tokens then some ⟨root, reader.anchors⟩ else none

/-- The one document of a text; `none` if the text is malformed. -/
def Document.ofText? (text : String) : Option Document := do
  Document.ofTokens? (← tokens? text)

end Yaml

end Toolbench
