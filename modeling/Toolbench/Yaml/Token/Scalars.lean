import Toolbench.Text.Hex
import Toolbench.Yaml.Cursor
import Toolbench.Yaml.Token

/-!
# The texts of YAML scalars

Plain and quoted scalars fold their line breaks: one break is a space, of more
the first is dropped.  Block scalars keep or fold the lines of an indented block.
Every reader returns `none` where the text is no scalar of its style.
-/

namespace Toolbench

namespace Yaml

/-- What lies between two words: blanks of one line, or a first break and those behind it. -/
inductive Gap where
  | blanks (text : List Char)
  | breaks (first others : List Char)

namespace Gap

def text : Gap → List Char
  | blanks text => text
  | breaks first others =>
      if first = ['\n'] then (if others.isEmpty then [' '] else others)
      else first ++ others

def breaksLine : Gap → Bool
  | blanks _ => false
  | breaks _ _ => true

/-- The gap with one more blank; those at the start of a line do not count. -/
def addBlank (x : Char) : Gap → Gap
  | blanks text => blanks (text ++ [x])
  | gap => gap

/-- The gap with one more line break; blanks before the first one do not count. -/
def addBreak (x : Char) : Gap → Gap
  | blanks _ => breaks (breakText x) []
  | breaks first others => breaks first (others ++ breakText x)

/-- Reads on in a gap; a tab that indents a line by less than `indent` is refused. -/
def read (indent : Nat) (gap : Gap) (c : Cursor) : Option (Gap × Cursor) :=
  match _h : c.rest with
  | [] => some (gap, c)
  | x :: _ =>
      if x = '\t' && gap.breaksLine && c.column < indent then none
      else if isBlank x then read indent (gap.addBlank x) c.step
      else if isBreak x then read indent (gap.addBreak x) c.step
      else some (gap, c)
termination_by c.rest.length
decreasing_by
  · exact Cursor.length_step _h
  · exact Cursor.length_step _h

end Gap

namespace Scalar

def isFlowMark (c : Char) : Bool :=
  c = ',' || c = '[' || c = ']' || c = '{' || c = '}'

/-- The characters that a colon inside brackets must not touch. -/
def isFlowBarrier (c : Char) : Bool :=
  isFlowMark c || c = '?'

def plainWord (inFlow : Bool) (c : Cursor) : Option (List Char × Cursor) :=
  match _h : c.rest with
  | [] => some ([], c)
  | x :: behind =>
      if isBlank x || isBreak x then some ([], c)
      else if inFlow && x = ':' && (behind.head?.filter isFlowBarrier).isSome then none
      else if x = ':' && endsWord behind then some ([], c)
      else if inFlow && isFlowMark x then some ([], c)
      else
        match plainWord inFlow c.step with
        | none => none
        | some (word, d) => some (x :: word, d)
termination_by c.rest.length
decreasing_by
  exact Cursor.length_step _h

/--
A plain scalar from one of its words on, and whether the place behind it is on a
later line than its last word.
-/
def plainFrom (inFlow : Bool) (indent : Nat) (text : List Char) (gap : Gap) (c : Cursor) :
    Option (List Char × Bool × Cursor) :=
  if c.atDocumentMark || c.at_ '#' then some (text, gap.breaksLine, c)
  else
    match plainWord inFlow c with
    | none => none
    | some ([], _) => some (text, gap.breaksLine, c)
    | some (word, d) =>
        let text := text ++ gap.text ++ word
        match Gap.read indent (.blanks []) d with
        | none => none
        | some (between, e) =>
            if e.rest.length = d.rest.length then some (text, false, d)
            else if !inFlow && e.column < indent then some (text, between.breaksLine, e)
            else if e.rest.length < c.rest.length then plainFrom inFlow indent text between e
            else none
termination_by c.rest.length

/-- A plain scalar, given the least column of its further lines. -/
def plain (inFlow : Bool) (indent : Nat) (c : Cursor) : Option (List Char × Bool × Cursor) :=
  plainFrom inFlow indent [] (.blanks []) c

def hexValue? (count : Nat) (text : List Char) : Option Nat :=
  let digits := text.take count
  if digits.length = count then
    digits.foldlM (fun value c => (Text.Hex.value? c).map (value * 16 + ·)) 0
  else none

def letterEscape? (c : Char) : Option Char :=
  match c with
  | '0' => some (Char.ofNat 0)
  | 'a' => some (Char.ofNat 7)
  | 'b' => some (Char.ofNat 8)
  | 't' | '\t' => some '\t'
  | 'n' => some '\n'
  | 'v' => some (Char.ofNat 0xB)
  | 'f' => some (Char.ofNat 0xC)
  | 'r' => some '\r'
  | 'e' => some (Char.ofNat 0x1B)
  | ' ' | '"' | '/' | '\\' => some c
  | 'N' => some (Char.ofNat 0x85)
  | '_' => some (Char.ofNat 0xA0)
  | 'L' => some (Char.ofNat 0x2028)
  | 'P' => some (Char.ofNat 0x2029)
  | _ => none

def numberEscape? (c : Char) : Option Nat :=
  match c with
  | 'x' => some 2
  | 'u' => some 4
  | 'U' => some 8
  | _ => none

def scalarValue? (code : Nat) : Option Char :=
  if h : code.isValidChar then some (Char.ofNatAux code h) else none

def escape? (text : List Char) : Option (Char × Nat) :=
  match text with
  | [] => none
  | x :: behind =>
      match letterEscape? x with
      | some image => some (image, 1)
      | none => do
          let count ← numberEscape? x
          let code ← hexValue? count behind
          let image ← scalarValue? code
          some (image, count + 1)

inductive QuotedPart where
  | close (behind : Cursor)
  | part (text : List Char) (behind : Cursor)

def quotedGap (gap : Gap) (c : Cursor) : Option QuotedPart :=
  (gap.read 0 c).map fun (gap, d) => .part gap.text d

/-- The next part of a quoted scalar: its end, a character, an escape or a gap. -/
def quotedPart? (single : Bool) (c : Cursor) : Option QuotedPart :=
  if c.atDocumentMark then none
  else
    match c.rest with
    | [] => none
    | x :: behind =>
        if isBlank x || isBreak x then quotedGap (.blanks []) c
        else if single then
          if x = '\'' then
            if behind.head? = some '\'' then some (.part ['\''] (c.stepMany 2))
            else some (.close c.step)
          else some (.part [x] c.step)
        else if x = '"' then some (.close c.step)
        else if x = '\\' then
          if (behind.head?.filter isBreak).isSome then
            quotedGap (.breaks [] []) (c.stepMany 2)
          else
            match escape? behind with
            | some (image, count) => some (.part [image] (c.stepMany (count + 1)))
            | none => none
        else some (.part [x] c.step)

def quotedFrom (single : Bool) (text : List Char) (c : Cursor) : Option (List Char × Cursor) :=
  match quotedPart? single c with
  | none => none
  | some (.close behind) => some (text, behind)
  | some (.part more behind) =>
      if behind.rest.length < c.rest.length then quotedFrom single (text ++ more) behind
      else none
termination_by c.rest.length

def quoted (single : Bool) (c : Cursor) : Option (List Char × Cursor) :=
  quotedFrom single [] c.step

inductive Chomping where
  | strip
  | clip
  | keep
deriving DecidableEq

/-- What stands behind the indicator of a block scalar; an indentation of 0 is found out. -/
structure BlockHeader where
  chomping : Chomping := .clip
  increment : Nat := 0

def chomping? (c : Cursor) : Option (Chomping × Cursor) :=
  if c.at_ '+' then some (.keep, c.step)
  else if c.at_ '-' then some (.strip, c.step)
  else none

/-- Reads a digit of indentation, which must not be 0. -/
def increment? (c : Cursor) : Option (Nat × Cursor) :=
  match c.next? Char.isDigit with
  | none => some (0, c)
  | some '0' => none
  | some x => some (x.toNat - 0x30, c.step)

/-- Reads the sign and the digit of a block scalar, in either order. -/
def blockHeader? (c : Cursor) : Option (BlockHeader × Cursor) :=
  match chomping? c with
  | some (chomping, d) => do
      let (increment, e) ← increment? d
      some (⟨chomping, increment⟩, e)
  | none => do
      let (increment, d) ← increment? c
      if increment = 0 then some (⟨.clip, 0⟩, d)
      else
        match chomping? d with
        | some (chomping, e) => some (⟨chomping, increment⟩, e)
        | none => some (⟨.clip, increment⟩, d)

/-- Empty lines before a line of a block scalar: the widest indentation, and the breaks. -/
def blockBreaks (indent widest : Nat) (breaks : List Char) (c : Cursor) :
    Option (Nat × List Char × Cursor) :=
  match _h : c.rest with
  | [] => some (max widest c.column, breaks, c)
  | x :: _ =>
      if x = ' ' && (indent = 0 || c.column < indent) then blockBreaks indent widest breaks c.step
      else if x = '\t' && (indent = 0 || c.column < indent) then none
      else if isBreak x then
        blockBreaks indent (max widest c.column) (breaks ++ breakText x) c.step
      else some (max widest c.column, breaks, c)
termination_by c.rest.length
decreasing_by
  · exact Cursor.length_step _h
  · exact Cursor.length_step _h

def lineText (c : Cursor) : List Char :=
  c.rest.takeWhile fun x => !isBreak x

structure BlockText where
  text : List Char := []
  /-- The break behind the last line. -/
  lastBreak : List Char := []
  /-- The breaks of the empty lines behind it. -/
  emptyLines : List Char := []
  /-- Whether the last line starts with a blank. -/
  blankStart : Bool := false

/-- One more line; folding joins two lines that do not start with a blank. -/
def BlockText.addLine (literal : Bool) (block : BlockText) (line : List Char) : List Char :=
  let startsBlank := (line.head?.filter isBlank).isSome
  if !literal && block.lastBreak = ['\n'] && !block.blankStart && !startsBlank then
    block.text ++ (if block.emptyLines.isEmpty then [' '] else block.emptyLines) ++ line
  else block.text ++ block.lastBreak ++ block.emptyLines ++ line

def BlockText.close (chomping : Chomping) (block : BlockText) : List Char :=
  match chomping with
  | .strip => block.text
  | .clip => block.text ++ block.lastBreak
  | .keep => block.text ++ block.lastBreak ++ block.emptyLines

def blockLines (literal : Bool) (indent : Nat) (block : BlockText) (c : Cursor) :
    Option (BlockText × Cursor) :=
  if c.column = indent && !c.rest.isEmpty then
    let line := lineText c
    let lineEnd := c.skipWhile fun x => !isBreak x
    let lastBreak := match lineEnd.rest with
      | [] => []
      | x :: _ => breakText x
    match blockBreaks indent 0 [] lineEnd.skipBreak with
    | none => none
    | some (_, emptyLines, d) =>
        if d.rest.length < c.rest.length then
          blockLines literal indent
            { text := block.addLine literal line, lastBreak, emptyLines,
              blankStart := (line.head?.filter isBlank).isSome } d
        else none
  else some (block, c)
termination_by c.rest.length

/--
A block scalar from its indicator on, given one more than the column of the block
that it stands in.
-/
def block (literal : Bool) (parent : Nat) (c : Cursor) : Option (List Char × Cursor) := do
  let (header, c) ← blockHeader? c.step
  let c := (c.skipWhile isBlank).skipComment
  if !c.atLineEnd then none
  let given := if header.increment = 0 then 0 else parent - 1 + header.increment
  let (widest, emptyLines, c) ← blockBreaks given 0 [] c.skipBreak
  let indent := if given = 0 then max widest (max parent 1) else given
  let (lines, c) ← blockLines literal indent { emptyLines } c
  some (lines.close header.chomping, c)

end Scalar

end Yaml

end Toolbench
