import Toolbench.Decimal.Layout
import Toolbench.Json.Basic
import Toolbench.Yaml.Meaning
import Toolbench.Yaml.Node.Reader

/-!
# Reading values from YAML

Readers of the values that documents declare.  A text that is malformed anywhere is
not looked at.  A reader goes through a document from its start to its end, so of
several faults the first one counts.
-/

namespace Toolbench

namespace Yaml

open Decode

inductive PathStep where
  | key (name : String)
  | index (position : Nat)

/-- The way from the root to a node, the last step first. -/
abbrev Path := List PathStep

def Path.text : Path → String
  | [] => "."
  | [.key name] => name
  | .key name :: outer => Path.text outer ++ "." ++ name
  | .index position :: outer => Path.text outer ++ "[" ++ toString position ++ "]"

/-- The place of an entry's value, as its key shows it; only scalars do. -/
def PathStep.ofKey : Node → PathStep
  | .scalar _ _ text => .key text
  | _ => .key "?"

inductive Refusal where
  /-- The text is malformed. -/
  | unreadable
  /-- Collections are nested too deep. -/
  | tooDeep
  /-- Aliases are followed too often. -/
  | tooManyAliases
  | mismatch (path : Path) (mismatch : Mismatch)

def wording : Wording := ⟨"unit value", Binary64.plainText⟩

/-- The wording of a refusal; where a malformed text is malformed is not told. -/
def Refusal.message : Refusal → String
  | unreadable | tooDeep => "<yaml syntax>"
  | tooManyAliases => "repetition limit exceeded"
  | mismatch [] fault => fault.message wording
  | mismatch path fault => path.text ++ ": " ++ fault.message wording

/--
An action of reading a document: it knows the anchors and counts how many aliases may
still be followed.
-/
abbrev Decoding := ReaderT Anchors (StateT Nat (Except Refusal))

abbrev Decoder (α : Type) := Path → Node → Decoding α

namespace Decoder

/-- The node itself, or the one that an alias stands for. -/
def follow : Node → Decoding Node
  | .alias anchor => do
      let left ← get
      if left = 0 then throw .tooManyAliases
      set (left - 1)
      match (← read).lookup anchor with
      | some node => return node
      | none => throw .unreadable
  | node => return node

def unexpected (expected : String) (path : Path) : Node → Refusal
  | .scalar tag style text =>
      match meaning tag style text with
      | .ok meaning => .mismatch path (.type meaning.found expected)
      | .error fault => .mismatch path fault
  | .sequence _ _ => .mismatch path (.type .sequence expected)
  | .mapping _ _ => .mismatch path (.type .map expected)
  | .alias _ => .unreadable

/-- The text of a scalar, whatever it stands for. -/
def text (expected : String) : Decoder String := fun path node => do
  match ← follow node with
  | .scalar _ _ text => return text
  | node => throw (unexpected expected path node)

def string : Decoder String :=
  text "a string"

/-- Whether a scalar's style lets its text stand for other things than text. -/
def isOpen (name : String) (tag : Option Tag) (style : ScalarStyle) : Bool :=
  style = .plain || (style = .literal && tag = some (standardTag name))

def ofScalar {α : Type} (expected name : String) (value? : String → Option α) : Decoder α :=
  fun path node => do
    let node ← follow node
    let value := match node with
      | .scalar tag style text => if isOpen name tag style then value? text else none
      | _ => none
    match value with
    | some value => return value
    | none => throw (unexpected expected path node)

def bool : Decoder Bool :=
  ofScalar "a boolean" "bool" Meaning.bool?

/-- A natural number below `2 ^ 64`. -/
def natural (expected : String) : Decoder Nat :=
  ofScalar expected "int" fun text => Meaning.word64? text.toList

/-- Whether a scalar stands for nothing; what is tagged as `null` has to be `null`. -/
def isNull (tag : Option Tag) (style : ScalarStyle) (text : String) : Except Mismatch Bool :=
  if style ≠ .plain then .ok false
  else if tag.isNone then .ok (text.isEmpty || Meaning.isNullText text)
  else if tag = some (standardTag "null") then
    if Meaning.isNullText text then .ok true else .error (.value (.string text) "null")
  else .ok false

def optional {α : Type} (decoder : Decoder α) : Decoder (Option α) := fun path node => do
  match ← follow node with
  | .scalar tag style text =>
      match isNull tag style text with
      | .ok true => return none
      | .ok false => return some (← decoder path (.scalar tag style text))
      | .error fault => throw (.mismatch path.tail fault)
  | node => return some (← decoder path node)

def items {α : Type} (decoder : Decoder α) (path : Path) : Nat → List Node → Decoding (List α)
  | _, [] => return []
  | position, node :: rest => do
      let item ← decoder (.index position :: path) node
      let others ← items decoder path (position + 1) rest
      return item :: others

/-- Whether a node is nothing at all, which is as good as a collection without members. -/
def isNothing : Node → Bool
  | .scalar _ style text => text.isEmpty && style = .plain
  | _ => false

def list {α : Type} (decoder : Decoder α) : Decoder (List α) := fun path node => do
  match ← follow node with
  | .sequence _ nodes => items decoder path 0 nodes
  | node => if isNothing node then return [] else throw (unexpected "a sequence" path node)

def entries (expected : String) : Decoder (List (Node × Node)) := fun path node => do
  match ← follow node with
  | .mapping _ entries => return entries
  | node => if isNothing node then return [] else throw (unexpected expected path node)

/-- Texts by key; of equal keys the last one counts. -/
def stringMap : Decoder (List (String × String)) := fun path node => do
  let entries ← entries "a map" path node
  entries.foldlM (fun pairs (keyNode, valueNode) => do
      let key ← string path keyNode
      let value ← string (.ofKey keyNode :: path) valueNode
      return insertSorted key value pairs) []
where
  /-- Sets the value of a key in a list in ascending order of the keys. -/
  insertSorted (key value : String) : List (String × String) → List (String × String)
    | [] => [(key, value)]
    | (k, v) :: rest =>
        if k = key then (key, value) :: rest
        else if key < k then (key, value) :: (k, v) :: rest
        else (k, v) :: insertSorted key value rest

def named {α : Type} (known : List String) (ofName? : String → Option α) (path : Path)
    (word : String) : Except Refusal α :=
  match ofName? word with
  | some value => .ok value
  | none => .error (.mismatch path (.unknownVariant word known))

def nothing (path : Path) : Node → Except Refusal Unit
  | .scalar _ style text =>
      if style = .plain && (text.isEmpty || Meaning.isNullText text) then .ok ()
      else .error (.mismatch path (.value (.string text) "null"))
  | node => .error (unexpected "unit" path node)

def tag? : Node → Option Tag
  | .scalar tag _ _ => tag
  | .sequence tag _ => tag
  | .mapping tag _ => tag
  | .alias _ => none

/--
The word of a variant: a scalar's text, or a tag in front of nothing.  A tag that
names no variant is told of at `tagPath`.
-/
def variantAt {α : Type} (known : List String) (ofName? : String → Option α) (tagPath : Path)
    (path : Path) (node : Node) : Except Refusal α :=
  match variantTag? (tag? node), node with
  | some word, node => do
      let value ← named known ofName? tagPath word
      nothing path node
      return value
  | none, .scalar _ _ text => named known ofName? path text
  | none, node => .error (unexpected "a YAML tag starting with '!'" path node)

/--
The word of a variant.  A tag that names none is told of at the place around the
node, or where the alias of the node stands.
-/
def variant {α : Type} (known : List String) (ofName? : String → Option α) : Decoder α :=
  fun path node => do
    let tagPath := match node with
      | .alias _ => path
      | _ => path.tail
    variantAt known ofName? tagPath path (← follow node)

structure RecordKind where
  expected : String
  fields : List String
  /-- Whether other keys are passed over. -/
  isOpen : Bool := false

def recordEntries {σ : Type} (kind : RecordKind) (field : String → σ → Decoder σ) (path : Path) :
    List String → σ → List (Node × Node) → Decoding σ
  | _, state, [] => return state
  | seen, state, (keyNode, valueNode) :: rest => do
      let key ← text "field identifier" path keyNode
      if kind.fields.contains key then
        if seen.contains key then throw (.mismatch path (.duplicateField key))
        let state ← field key state (.ofKey keyNode :: path) valueNode
        recordEntries kind field path (key :: seen) state rest
      else if kind.isOpen then recordEntries kind field path seen state rest
      else throw (.mismatch path (.unknownField key kind.fields))

def record {σ : Type} (kind : RecordKind) (field : String → σ → Decoder σ) (start : σ) :
    Decoder σ := fun path node => do
  let entries ← entries kind.expected path node
  recordEntries kind field path [] start entries

def demanded {α : Type} (name : String) (path : Path) (value : Option α) : Decoding α :=
  match value with
  | some value => return value
  | none => throw (.mismatch path (.missingField name))

def depthLimit : Nat := 128

def depthLeft (path : Path) : Nat :=
  depthLimit - path.length

/-- The decoder of the members of a collection, which may be nested too deep to have any. -/
def members {α : Type} (decoder : Option (Decoder α)) : Decoding (Decoder α) :=
  match decoder with
  | some decoder => return decoder
  | none => throw .tooDeep

/-- The JSON value of a scalar's meaning; numbers that are not finite are `null`. -/
def jsonScalar : Meaning → Except Mismatch Json
  | .null => .ok .null
  | .bool value => .ok (.bool value)
  | .integer value =>
      match WideInt.ofInt? value with
      | some value => .ok (.number (.integer value))
      | none => .error .numberOutOfRange
  | .wideInteger _ => .error .numberOutOfRange
  | .real (.finite value) => .ok (.number (.real value))
  | .real _ => .ok .null
  | .string value => .ok (.string value)

/-- The members of a JSON object; of equal keys the last one counts. -/
def jsonMembers (member : Decoder Json) (path : Path) (found : Json.Members) :
    List (Node × Node) → Decoding Json.Members
  | [] => return found
  | (keyNode, valueNode) :: rest => do
      let key ← text "a string key" path keyNode
      let value ← member (.ofKey keyNode :: path) valueNode
      jsonMembers member path (found.insert key value) rest

def jsonOf (member : Option (Decoder Json)) : Decoder Json := fun path node => do
  let node ← follow node
  if (variantTag? (tag? node)).isSome then
    throw (.mismatch path (.type .enum "any valid JSON value"))
  match node with
  | .scalar tag style text =>
      match (meaning tag style text).bind jsonScalar with
      | .ok value => return value
      | .error fault => throw (.mismatch path fault)
  | .sequence _ nodes => return .array (← items (← members member) path 0 nodes)
  | .mapping _ entries => return .object (← jsonMembers (← members member) path [] entries)
  | .alias _ => throw .unreadable

def jsonWithin : Nat → Decoder Json
  | 0 => jsonOf none
  | depth + 1 => jsonOf (some (jsonWithin depth))

def json : Decoder Json := fun path =>
  jsonWithin (depthLeft path) path

/-- What a union of variants without tags looks at. -/
inductive Content where
  | text (value : String)
  | list (items : List Content)
  | other

/-- Reads the entries of a mapping, of which nothing is kept. -/
def contentEntries (member : Decoder Content) (path : Path) : List (Node × Node) → Decoding Unit
  | [] => return ()
  | (key, value) :: rest => do
      let _ ← member path key
      let _ ← member (.ofKey key :: path) value
      contentEntries member path rest

def contentOf (member : Option (Decoder Content)) : Decoder Content := fun path node => do
  let node ← follow node
  if (variantTag? (tag? node)).isSome then throw (.mismatch path .taggedUnion)
  match node with
  | .scalar tag style text =>
      match meaning tag style text with
      | .ok (.string value) => return .text value
      | .ok (.wideInteger value) =>
          throw (.mismatch path (.type (.wideInteger value) "any value"))
      | .ok _ => return .other
      | .error fault => throw (.mismatch path fault)
  | .sequence _ nodes => return .list (← items (← members member) path 0 nodes)
  | .mapping _ entries => do
      contentEntries (← members member) path entries
      return .other
  | .alias _ => throw .unreadable

def contentWithin : Nat → Decoder Content
  | 0 => contentOf none
  | depth + 1 => contentOf (some (contentWithin depth))

def Content.text? : Content → Option String
  | .text value => some value
  | _ => none

def Content.textOrList? : Content → Option (String ⊕ List String)
  | .text value => some (.inl value)
  | .list items => (items.mapM Content.text?).map .inr
  | .other => none

/--
A text or a list of texts, which are variants of the union of that name.  Whatever else
it may be is told of at the place around the node.
-/
def textOrList (union : String) : Decoder (String ⊕ List String) := fun path node => do
  match (← contentWithin (depthLeft path) path node).textOrList? with
  | some value => return value
  | none => throw (.mismatch path.tail (.noVariant union))

end Decoder

def aliasesPerPart : Nat := 100

def Document.decode {α : Type} (decoder : Decoder α) (document : Document) : Except Refusal α :=
  (((decoder [] document.root).run document.anchors).run
    (document.root.size * aliasesPerPart)).map (·.1)

def decode {α : Type} (decoder : Decoder α) (text : String) : Except Refusal α :=
  match Document.ofText? text with
  | some document => document.decode decoder
  | none => .error .unreadable

end Yaml

end Toolbench
