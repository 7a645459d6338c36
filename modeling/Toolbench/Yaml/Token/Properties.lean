import Toolbench.Decimal.Literal
import Toolbench.Text.Utf8
import Toolbench.Yaml.Token.Scalars

/-!
# Anchors, aliases, tags and directives

The tokens that start with `&`, `*`, `!` and `%`.  Every reader starts at that
character and returns `none` where the text is malformed.
-/

namespace Toolbench

namespace Yaml

namespace Property

def word (c : Cursor) : List Char × Cursor :=
  (c.rest.takeWhile isWordChar, c.skipWhile isWordChar)

/-- The characters other than blanks and breaks that may stand behind an anchor. -/
def endsAnchor (c : Char) : Bool :=
  "?:,]\x7d%@`".toList.contains c

def anchorName? (c : Cursor) : Option (String × Cursor) :=
  let (name, d) := word c.step
  if name.isEmpty then none
  else if endsWord d.rest || (d.next? endsAnchor).isSome then some (String.ofList name, d)
  else none

/-- A tag handle: an exclamation mark, a word, and an exclamation mark where there is one. -/
def handle? (c : Cursor) : Option (List Char × Cursor) :=
  if c.at_ '!' then
    let (name, d) := word c.step
    if d.at_ '!' then some ('!' :: name ++ ['!'], d.step)
    else some ('!' :: name, d)
  else none

def isTagMark (c : Char) : Bool :=
  ";/?:@&=+$.%!~*'()".toList.contains c

/-- The characters of a tag, of which some only stand where brackets cannot be meant. -/
def isTagChar (anywhere : Bool) (c : Char) : Bool :=
  isWordChar c || isTagMark c || (anywhere && (c = ',' || c = '[' || c = ']'))

def octet? (text : List Char) : Option Nat :=
  match text with
  | '%' :: behind => Scalar.hexValue? 2 behind
  | _ => none

/-- How many octets a character has that starts with this one. -/
def octetCount? (first : Nat) : Option Nat :=
  if first < 0x80 then some 1
  else if 0xC0 ≤ first && first < 0xE0 then some 2
  else if 0xE0 ≤ first && first < 0xF0 then some 3
  else if 0xF0 ≤ first && first < 0xF8 then some 4
  else none

def octets? (text : List Char) : Option (List Nat) := do
  let first ← octet? text
  let count ← octetCount? first
  let others ← (List.range (count - 1)).mapM fun n => octet? (text.drop (3 * (n + 1)))
  if others.all fun octet => 0x80 ≤ octet && octet < 0xC0 then some (first :: others) else none

def tagOctets (anywhere : Bool) (c : Cursor) : Option (Tag × Cursor) :=
  match _h : c.rest with
  | [] => some ([], c)
  | x :: _ =>
      if x = '%' then
        match octets? c.rest with
        | none => none
        | some octets =>
            let d := c.stepMany (3 * octets.length)
            if d.rest.length < c.rest.length then
              (tagOctets anywhere d).map fun (tag, e) => (octets.map UInt8.ofNat ++ tag, e)
            else none
      else if isTagChar anywhere x then
        (tagOctets anywhere c.step).map fun (tag, e) => (Text.Utf8.encodeChar x ++ tag, e)
      else some ([], c)
termination_by c.rest.length
decreasing_by
  · assumption
  · exact Cursor.length_step _h

/-- A tag as far as it counts: an octet of zero ends it. -/
def counting (tag : Tag) : Tag :=
  tag.takeWhile (· ≠ 0)

/-- A tag in angle brackets, from the first of its characters on. -/
def verbatim? (c : Cursor) : Option (Token × Cursor) := do
  let (tag, d) ← tagOctets true c
  if tag.isEmpty || !d.at_ '>' then none
  some (.tag "" (counting tag), d.step)

/-- A tag with a handle; an exclamation mark alone is a tag of its own. -/
def shorthand? (c : Cursor) : Option (Token × Cursor) := do
  let (handle, d) ← handle? c
  let (tag, e) ← tagOctets false d
  if 2 ≤ handle.length && handle.getLast? = some '!' then
    if tag.isEmpty then none
    some (.tag (String.ofList handle) (counting tag), e)
  else
    let suffix := counting (Text.Utf8.encodeChars (handle.drop 1) ++ tag)
    if suffix.isEmpty then some (.tag "" (Text.Utf8.encodeChar '!'), e)
    else some (.tag "!" suffix, e)

/-- A tag, which a blank, a break or, between brackets, a comma has to follow. -/
def tag? (inFlow : Bool) (c : Cursor) : Option (Token × Cursor) := do
  let (token, d) ←
    if c.step.at_ '<' then verbatim? (c.stepMany 2) else shorthand? c
  if endsWord d.rest || (inFlow && d.at_ ',') then some (token, d) else none

/-- A number of at most nine digits. -/
def versionNumber? (c : Cursor) : Option (Nat × Cursor) :=
  let digits := c.rest.takeWhile Char.isDigit
  if digits.isEmpty || 9 < digits.length then none
  else some (Floating.digitsValue digits, c.skipWhile Char.isDigit)

def version? (c : Cursor) : Option (Token × Cursor) := do
  let (major, d) ← versionNumber? (c.skipWhile isBlank)
  if !d.at_ '.' then none
  let (minor, e) ← versionNumber? d.step
  some (.versionDirective major minor, e)

def tagMeaning? (c : Cursor) : Option (Token × Cursor) := do
  let (handle, d) ← handle? (c.skipWhile isBlank)
  if handle.length ≠ 1 && handle.getLast? ≠ some '!' then none
  if (d.next? isBlank).isNone then none
  let (tag, e) ← tagOctets true (d.skipWhile isBlank)
  if tag.isEmpty || !endsWord e.rest then none
  some (.tagDirective (String.ofList handle) (counting tag), e)

def directive? (c : Cursor) : Option (Token × Cursor) := do
  let (name, d) := word c.step
  if !endsWord d.rest then none
  let (token, e) ←
    match String.ofList name with
    | "YAML" => version? d
    | "TAG" => tagMeaning? d
    | _ => none
  let e := (e.skipWhile isBlank).skipComment
  if e.atLineEnd then some (token, e.skipBreak) else none

end Property

end Yaml

end Toolbench
