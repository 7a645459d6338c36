/-!
# Places in a YAML text

The characters still to be read together with the line and the column they start
at, and the character classes that reading goes by.
-/

namespace Toolbench

namespace Yaml

/--
The rest of a text and its place: octets and lines before it, and characters since
the last break.
-/
structure Cursor where
  rest : List Char
  index : Nat
  line : Nat
  column : Nat

def isBreak (c : Char) : Bool :=
  c = '\n' || c = '\r' || c.toNat = 0x85 || c.toNat = 0x2028 || c.toNat = 0x2029

def isBlank (c : Char) : Bool :=
  c = ' ' || c = '\t'

def isByteOrderMark (c : Char) : Bool :=
  c.toNat = 0xFEFF

/-- The characters of anchors, tag handles and directive names. -/
def isWordChar (c : Char) : Bool :=
  c.isAlphanum || c = '_' || c = '-'

/-- Whether a text is at its end, or starts with a blank or a break. -/
def endsWord : List Char → Bool
  | [] => true
  | c :: _ => isBlank c || isBreak c

/-- Whether a text starts with three equal characters that make up a word. -/
def startsMark (c : Char) : List Char → Bool
  | x :: y :: z :: rest => x = c && y = c && z = c && endsWord rest
  | _ => false

/-- How a text keeps a line break: separators of Unicode as they are, others as one newline. -/
def breakText (c : Char) : List Char :=
  if c.toNat = 0x2028 || c.toNat = 0x2029 then [c] else ['\n']

def isPrintable (c : Char) : Bool :=
  let code := c.toNat
  code == 0x9 || code == 0xA || code == 0xD || (0x20 ≤ code && code ≤ 0x7E) || code == 0x85 ||
    (0xA0 ≤ code && code ≤ 0xFFFD) || 0x10000 ≤ code

namespace Cursor

/-- The place behind the next character; a newline behind a carriage return belongs to it. -/
def step (c : Cursor) : Cursor :=
  match c.rest with
  | [] => c
  | '\r' :: '\n' :: rest => ⟨rest, c.index + 2, c.line + 1, 0⟩
  | x :: rest =>
      if isBreak x then ⟨rest, c.index + x.utf8Size, c.line + 1, 0⟩
      else ⟨rest, c.index + x.utf8Size, c.line, c.column + 1⟩

theorem length_step {c : Cursor} {x : Char} {rest : List Char} (h : c.rest = x :: rest) :
    c.step.rest.length < c.rest.length := by
  unfold step
  split
  · next he => simp [he] at h
  · next he => simp only [he, List.length_cons]; omega
  · next he => split <;> simp [he]

def stepMany (c : Cursor) : Nat → Cursor
  | 0 => c
  | n + 1 => c.step.stepMany n

def at_ (c : Cursor) (x : Char) : Bool :=
  c.rest.head? == some x

def next? (c : Cursor) (p : Char → Bool) : Option Char :=
  c.rest.head?.filter p

/-- The first place behind which a character fails the test. -/
def skipWhile (p : Char → Bool) (c : Cursor) : Cursor :=
  match _h : c.rest with
  | [] => c
  | x :: _ => if p x then skipWhile p c.step else c
termination_by c.rest.length
decreasing_by
  exact length_step _h

def skipBreak (c : Cursor) : Cursor :=
  if (c.next? isBreak).isSome then c.step else c

def skipComment (c : Cursor) : Cursor :=
  if c.at_ '#' then c.skipWhile fun x => !isBreak x else c

/-- Whether a line of three hyphens or three dots starts here. -/
def atDocumentMark (c : Cursor) : Bool :=
  c.column == 0 && (startsMark '-' c.rest || startsMark '.' c.rest)

def atLineEnd (c : Cursor) : Bool :=
  match c.rest with
  | [] => true
  | x :: _ => isBreak x

end Cursor

end Yaml

end Toolbench
