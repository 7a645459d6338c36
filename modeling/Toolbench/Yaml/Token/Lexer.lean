import Toolbench.Yaml.Token.Properties

/-!
# The tokens of a YAML text

A token may turn out to be a key only when the colon behind it is met.  Until then
its place among the tokens is kept, and the key indicator is put in front of it
afterwards.  Indentation opens blocks and closes them.
-/

namespace Toolbench

namespace Yaml

/-- A token that may be a key: how many tokens are before it, and where it starts. -/
structure PossibleKey where
  /-- Whether a key has to be here, since the token starts a line of a block mapping. -/
  required : Bool
  before : Nat
  start : Cursor

structure Lexer where
  cursor : Cursor
  /-- The tokens read so far, the last one first. -/
  reversed : List Token := []
  /-- The columns of the open blocks, the innermost first, each plus one. -/
  blocks : List Nat := []
  /-- What may be a key on each level of brackets, the innermost first. -/
  keys : List (Option PossibleKey) := [none]
  /-- Whether a key may start here. -/
  keyAllowed : Bool := true

namespace Lexer

def count (l : Lexer) : Nat :=
  l.reversed.length

def inFlow (l : Lexer) : Bool :=
  1 < l.keys.length

/-- One more than the column of the innermost block, 0 outside of all. -/
def indent (l : Lexer) : Nat :=
  l.blocks.headD 0

def push (l : Lexer) (token : Token) : Lexer :=
  { l with reversed := token :: l.reversed }

/-- The lexer with a token put behind the first `before` ones. -/
def insert (l : Lexer) (before : Nat) (token : Token) : Lexer :=
  let behind := l.count - before
  { l with reversed := l.reversed.take behind ++ token :: l.reversed.drop behind }

def moveTo (l : Lexer) (cursor : Cursor) : Lexer :=
  { l with cursor }

def skip (l : Lexer) : Lexer :=
  l.moveTo l.cursor.step

/-- Whether something that may be a key cannot be one any more. -/
def isStale (l : Lexer) (key : PossibleKey) : Bool :=
  key.start.line < l.cursor.line || key.start.index + 1024 < l.cursor.index

/-- Gives up keys whose colon is too far away; fails if one of them is required. -/
def dropStaleKeys (l : Lexer) : Option Lexer :=
  let stale := l.keys.filter fun key => (key.filter l.isStale).isSome
  if stale.any fun key => (key.filter (·.required)).isSome then none
  else some { l with keys := l.keys.map fun key => key.filter fun key => !l.isStale key }

/-- Gives up the key of the innermost level; fails if it is required. -/
def dropKey (l : Lexer) : Option Lexer :=
  match l.keys with
  | some key :: keys => if key.required then none else some { l with keys := none :: keys }
  | _ => some l

def markKey (l : Lexer) : Option Lexer :=
  if l.keyAllowed then do
    let key : PossibleKey :=
      { required := !l.inFlow && l.indent == l.cursor.column + 1, before := l.count,
        start := l.cursor }
    let l ← l.dropKey
    some { l with keys := some key :: l.keys.drop 1 }
  else some l

def allowKey (l : Lexer) (allowed : Bool) : Lexer :=
  { l with keyAllowed := allowed }

/-- Opens a block at a column unless one is open there, with its token behind `before` others. -/
def openBlock (l : Lexer) (column before : Nat) (token : Token) : Lexer :=
  if l.inFlow || column + 1 ≤ l.indent then l
  else { l.insert before token with blocks := (column + 1) :: l.blocks }

def closeEach (l : Lexer) : List Nat → Lexer
  | [] => l
  | _ :: rest => (l.push .blockEnd).closeEach rest

/-- Closes the blocks that are indented further than a column, which is given plus one. -/
def closeBlocks (l : Lexer) (column : Nat) : Lexer :=
  if l.inFlow then l
  else
    let closed := l.blocks.takeWhile (column < ·)
    { l.closeEach closed with blocks := l.blocks.drop closed.length }

/--
Skips blanks, comments and line breaks up to the next token, and the byte-order mark
that a line may start with.
-/
def skipSpace (l : Lexer) : Lexer :=
  match _h : l.cursor.rest with
  | [] => l
  | x :: _ =>
      if x = ' ' || (x = '\t' && (l.inFlow || !l.keyAllowed)) ||
          (isByteOrderMark x && l.cursor.column = 0) then skipSpace l.skip
      else
        let d := l.cursor.skipComment
        match d.rest with
        | [] => l.moveTo d
        | y :: _ =>
            if isBreak y then
              let next := l.moveTo d.step
              let next := if l.inFlow then next else next.allowKey true
              if next.cursor.rest.length < l.cursor.rest.length then skipSpace next
              else next
            else l.moveTo d
termination_by l.cursor.rest.length
decreasing_by
  · exact Cursor.length_step _h
  · assumption

def indicator (l : Lexer) (token : Token) : Lexer :=
  l.skip.push token

/-- The end of the text closes all blocks. -/
def streamEnd? (l : Lexer) : Option Lexer := do
  let c := l.cursor
  let l := if c.column = 0 then l else l.moveTo { c with line := c.line + 1, column := 0 }
  let l ← (l.closeBlocks 0).dropKey
  some ((l.allowKey false).push .streamEnd)

def directive? (l : Lexer) : Option Lexer := do
  let l ← (l.closeBlocks 0).dropKey
  let (token, d) ← Property.directive? l.cursor
  some (((l.allowKey false).moveTo d).push token)

/-- A line that starts or ends a document closes all blocks. -/
def documentMark? (l : Lexer) (token : Token) : Option Lexer := do
  let l ← (l.closeBlocks 0).dropKey
  some (((l.allowKey false).moveTo (l.cursor.stepMany 3)).push token)

/-- An opening bracket may start a key, and starts a level. -/
def openFlow? (l : Lexer) (token : Token) : Option Lexer := do
  let l ← l.markKey
  some ({ l with keys := none :: l.keys, keyAllowed := true }.indicator token)

def closeFlow? (l : Lexer) (token : Token) : Option Lexer := do
  let l ← l.dropKey
  let keys := match l.keys with
    | _ :: outer :: rest => outer :: rest
    | keys => keys
  some ({ l with keys, keyAllowed := false }.indicator token)

def flowEntry? (l : Lexer) : Option Lexer := do
  let l ← l.dropKey
  some ((l.allowKey true).indicator .flowEntry)

def blockFor? (l : Lexer) (token : Token) : Option Lexer :=
  if l.inFlow then some l
  else if l.keyAllowed then some (l.openBlock l.cursor.column l.count token)
  else none

def blockEntry? (l : Lexer) : Option Lexer := do
  let l ← l.blockFor? .blockSequenceStart
  let l ← l.dropKey
  some ((l.allowKey true).indicator .blockEntry)

def explicitKey? (l : Lexer) : Option Lexer := do
  let l ← l.blockFor? .blockMappingStart
  let l ← l.dropKey
  some ((l.allowKey !l.inFlow).indicator .key)

/-- A colon before a value: what may be a key on this level is one. -/
def value? (l : Lexer) : Option Lexer :=
  match l.keys with
  | some key :: keys =>
      let l := (l.insert key.before .key).openBlock key.start.column key.before .blockMappingStart
      some ({ l with keys := none :: keys, keyAllowed := false }.indicator .value)
  | _ => do
      let l ← l.blockFor? .blockMappingStart
      some ((l.allowKey !l.inFlow).indicator .value)

def anchor? (l : Lexer) (token : String → Token) : Option Lexer := do
  let l ← l.markKey
  let (name, d) ← Property.anchorName? l.cursor
  some (((l.allowKey false).moveTo d).push (token name))

def tag? (l : Lexer) : Option Lexer := do
  let l ← l.markKey
  let (token, d) ← Property.tag? l.inFlow l.cursor
  some (((l.allowKey false).moveTo d).push token)

def blockScalar? (l : Lexer) (style : ScalarStyle) : Option Lexer := do
  let l ← l.dropKey
  let (text, d) ← Scalar.block (style == .literal) l.indent l.cursor
  some (((l.allowKey true).moveTo d).push (.scalar style (String.ofList text)))

def quotedScalar? (l : Lexer) (style : ScalarStyle) : Option Lexer := do
  let l ← l.markKey
  let (text, d) ← Scalar.quoted (style == .singleQuoted) l.cursor
  some (((l.allowKey false).moveTo d).push (.scalar style (String.ofList text)))

/-- A plain scalar; behind one that ends before a line break, a key may start. -/
def plainScalar? (l : Lexer) : Option Lexer := do
  let l ← l.markKey
  let (text, brokeLine, d) ← Scalar.plain l.inFlow l.indent l.cursor
  some (((l.allowKey brokeLine).moveTo d).push (.scalar .plain (String.ofList text)))

def isIndicator (c : Char) : Bool :=
  "-?:,[]\x7b\x7d#&*!|>'\"%@`".toList.contains c

def startsPlain (l : Lexer) (x : Char) (behind : List Char) : Bool :=
  !(isIndicator x || isBlank x || isBreak x) ||
    (x = '-' && (behind.head?.filter isBlank).isNone) ||
    (!l.inFlow && (x = '?' || x = ':') && !endsWord behind)

def tokenFrom? (l : Lexer) (x : Char) (behind : List Char) : Option Lexer :=
  let atStart := l.cursor.column == 0
  if atStart && x = '%' then l.directive?
  else if atStart && startsMark '-' l.cursor.rest then l.documentMark? .documentStart
  else if atStart && startsMark '.' l.cursor.rest then l.documentMark? .documentEnd
  else if x = '[' then l.openFlow? .flowSequenceStart
  else if x = '{' then l.openFlow? .flowMappingStart
  else if x = ']' then l.closeFlow? .flowSequenceEnd
  else if x = '}' then l.closeFlow? .flowMappingEnd
  else if x = ',' then l.flowEntry?
  else if x = '-' && endsWord behind then l.blockEntry?
  else if x = '?' && (l.inFlow || endsWord behind) then l.explicitKey?
  else if x = ':' && (l.inFlow || endsWord behind) then l.value?
  else if x = '*' then l.anchor? .alias
  else if x = '&' then l.anchor? .anchor
  else if x = '!' then l.tag?
  else if x = '|' && !l.inFlow then l.blockScalar? .literal
  else if x = '>' && !l.inFlow then l.blockScalar? .folded
  else if x = '\'' then l.quotedScalar? .singleQuoted
  else if x = '"' then l.quotedScalar? .doubleQuoted
  else if l.startsPlain x behind then l.plainScalar?
  else none

/-- Reads the next token and those that it implies. -/
def next? (l : Lexer) : Option Lexer := do
  let l ← l.skipSpace.dropStaleKeys
  let l := l.closeBlocks (l.cursor.column + 1)
  match l.cursor.rest with
  | [] => l.streamEnd?
  | x :: behind => l.tokenFrom? x behind

def run? : Nat → Lexer → Option (List Token)
  | 0, _ => none
  | fuel + 1, l => do
      let l ← l.dropStaleKeys
      if l.reversed.head? = some .streamEnd then some l.reversed.reverse
      else run? fuel (← l.next?)

end Lexer

def tokens? (text : String) : Option (List Token) :=
  let chars := text.toList
  if chars.all isPrintable then
    Lexer.run? (chars.length + 2) { cursor := ⟨chars, 0, 0, 0⟩ }
  else none

end Yaml

end Toolbench
