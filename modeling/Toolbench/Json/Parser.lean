import Toolbench.Decimal.Read
import Toolbench.Json.Basic
import Toolbench.Json.Syntax
import Toolbench.Text.Hex

/-!
# Reading JSON

A reader for one JSON document.  Its steps return the value and the text behind
it; of several values for one key the last one counts, and values nest at most
127 deep.
-/

namespace Toolbench

namespace Json

def isSpace (c : Char) : Bool :=
  c = ' ' || c = '\n' || c = '\t' || c = '\r'

/-- The text from its next token on. -/
def skipSpaces (text : List Char) : List Char :=
  text.dropWhile isSpace

def readWord (value : Json) : List Char → List Char → Except Fault (Json × List Char)
  | [], rest => .ok (value, rest)
  | _ :: _, [] => .error (.before .endInValue [])
  | expected :: word, c :: rest =>
      if c = expected then readWord value word rest
      else .error ⟨.expectedIdent, c :: rest, 1⟩

/-! ## Strings -/

def readHex (text : List Char) : Except Fault (Nat × List Char) :=
  if Text.Utf8.size (text.take 4) < 4 then .error (.before .endInString [])
  else
    match text with
    | a :: b :: c :: d :: rest =>
        match Text.Hex.value? a, Text.Hex.value? b, Text.Hex.value? c, Text.Hex.value? d with
        | some a, some b, some c, some d => .ok (((a * 16 + b) * 16 + c) * 16 + d, rest)
        | _, _, _, _ => .error ⟨.invalidEscape, text, 4⟩
    | _ => .error ⟨.invalidEscape, text, 4⟩

/-- Reads the trailing half of a surrogate pair. -/
def readTrailing (leading : Nat) (text : List Char) : Except Fault (Char × List Char) :=
  match text with
  | [] => .error (.before .endInString [])
  | '\\' :: [] => .error (.before .endInString [])
  | '\\' :: 'u' :: rest => do
      let (trailing, rest) ← readHex rest
      if 0xDC00 ≤ trailing && trailing ≤ 0xDFFF then
        .ok (Char.ofNat ((leading - 0xD800) * 0x400 + (trailing - 0xDC00) + 0x10000), rest)
      else .error (.before .loneSurrogate rest)
  | '\\' :: rest => .error ⟨.endOfHexEscape, rest, 1⟩
  | text => .error ⟨.endOfHexEscape, text, 1⟩

def readUnicode (text : List Char) : Except Fault (Char × List Char) := do
  let (code, rest) ← readHex text
  if 0xDC00 ≤ code && code ≤ 0xDFFF then .error (.before .loneSurrogate rest)
  else if 0xD800 ≤ code && code ≤ 0xDBFF then readTrailing code rest
  else .ok (Char.ofNat code, rest)

def readEscape : List Char → Except Fault (Char × List Char)
  | [] => .error (.before .endInString [])
  | 'u' :: rest => readUnicode rest
  | '"' :: rest => .ok ('"', rest)
  | '\\' :: rest => .ok ('\\', rest)
  | '/' :: rest => .ok ('/', rest)
  | 'b' :: rest => .ok (Char.ofNat 0x8, rest)
  | 'f' :: rest => .ok (Char.ofNat 0xC, rest)
  | 'n' :: rest => .ok ('\n', rest)
  | 'r' :: rest => .ok ('\r', rest)
  | 't' :: rest => .ok ('\t', rest)
  | c :: rest => .error ⟨.invalidEscape, c :: rest, 1⟩

def readStringFuel : Nat → List Char → Except Fault (List Char × List Char)
  | 0, text => .error (.before .endInString text)
  | _ + 1, [] => .error (.before .endInString [])
  | fuel + 1, c :: rest =>
      if c = '"' then .ok ([], rest)
      else if c = '\\' then do
        let (c, rest) ← readEscape rest
        let (text, rest) ← readStringFuel fuel rest
        .ok (c :: text, rest)
      else if c.toNat < 0x20 then .error ⟨.controlCharacter, c :: rest, 1⟩
      else do
        let (text, rest) ← readStringFuel fuel rest
        .ok (c :: text, rest)

def readString (text : List Char) : Except Fault (List Char × List Char) :=
  readStringFuel (text.length + 1) text

/-! ## Numbers -/

/-- The digits that a text starts with, and what follows them. -/
def spanDigits : List Char → List Char × List Char
  | [] => ([], [])
  | c :: rest =>
      if c.isDigit then (c :: (spanDigits rest).1, (spanDigits rest).2) else ([], c :: rest)

/--
Appends digits to a number as long as it stays below `2 ^ 64`, and returns it
with the digits that no longer fit.
-/
def takeDigits (value : Nat) : List Char → Nat × List Char
  | [] => (value, [])
  | c :: rest =>
      let next := value * 10 + (c.toNat - 0x30)
      if next < 0x10000000000000000 then takeDigits next rest else (value, c :: rest)

def signed (positive : Bool) (value : Binary64) : Number :=
  .real (if positive then value else value.neg)

def readScaled (positive : Bool) (digits : Nat) (exponent : Int) (rest : List Char) :
    Except Fault (Number × List Char) :=
  match Binary64.scaled? digits exponent with
  | some value => .ok (signed positive value, rest)
  | none => .error (.before .numberOutOfRange rest)

def maxExponent : Nat := 2147483647

/-- Reads the digits of an exponent, `none` and the digits left over once it is too large. -/
def takeExponent (value : Nat) : List Char → Option Nat × List Char
  | [] => (some value, [])
  | c :: rest =>
      let next := value * 10 + (c.toNat - 0x30)
      if next ≤ maxExponent then takeExponent next rest else (none, rest)

/-- An exponent kept within 32 bits. -/
def clampExponent (exponent : Int) : Int :=
  max (-2147483648) (min 2147483647 exponent)

def readExponent (positive : Bool) (digits : Nat) (start : Int) (text : List Char) :
    Except Fault (Number × List Char) :=
  let (up, text) := match text with
    | '+' :: rest => (true, rest)
    | '-' :: rest => (false, rest)
    | text => (true, text)
  match text with
  | [] => .error (.before .endInValue [])
  | c :: rest =>
      if c.isDigit then
        let (run, behind) := spanDigits (c :: rest)
        match takeExponent 0 run with
        | (some exponent, _) =>
            let exponent : Int := if up then exponent else -exponent
            readScaled positive digits (clampExponent (start + exponent)) behind
        | (none, left) =>
            if digits != 0 && up then .error (.before .numberOutOfRange (left ++ behind))
            else .ok (signed positive (Binary64.zero false), behind)
      else .error ⟨.invalidNumber, c :: rest, 1⟩

def readExponentOrEnd (positive : Bool) (digits : Nat) (start : Int) (text : List Char) :
    Except Fault (Number × List Char) :=
  match text with
  | 'e' :: rest => readExponent positive digits start rest
  | 'E' :: rest => readExponent positive digits start rest
  | text => readScaled positive digits start text

/-- Reads the fraction of a number behind its point.  Digits beyond `2 ^ 64` are passed over. -/
def readFraction (positive : Bool) (digits : Nat) (start : Int) (text : List Char) :
    Except Fault (Number × List Char) :=
  let (run, behind) := spanDigits text
  match run with
  | [] => .error (.at_ (if text.isEmpty then .endInValue else .invalidNumber) text)
  | run =>
      let (digits, left) := takeDigits digits run
      let places : Int := run.length - left.length
      readExponentOrEnd positive digits (start - places) behind

def integerNumber (positive : Bool) (digits : Nat) : Option Number :=
  if positive then (WideInt.ofInt? digits).map .integer
  else if digits == 0 || 0x8000000000000000 < digits then
    (Binary64.ofInt? digits).map fun value => .real value.neg
  else (WideInt.ofInt? (-(digits : Int))).map .integer

def readAfterDigits (positive : Bool) (run behind : List Char) :
    Except Fault (Number × List Char) :=
  let (digits, left) := takeDigits 0 run
  let start : Int := left.length
  match behind with
  | '.' :: rest => readFraction positive digits start rest
  | 'e' :: rest => readExponent positive digits start rest
  | 'E' :: rest => readExponent positive digits start rest
  | behind =>
      if left.isEmpty then
        match integerNumber positive digits with
        | some value => .ok (value, behind)
        | none => .error (.before .numberOutOfRange behind)
      else readScaled positive digits start behind

def readNumber (positive : Bool) (text : List Char) : Except Fault (Number × List Char) :=
  match text with
  | [] => .error (.before .endInValue [])
  | '0' :: rest =>
      match rest with
      | c :: _ =>
          if c.isDigit then .error (.at_ .invalidNumber rest)
          else readAfterDigits positive ['0'] rest
      | [] => readAfterDigits positive ['0'] []
  | c :: rest =>
      if c.isDigit then
        readAfterDigits positive (spanDigits (c :: rest)).1 (spanDigits (c :: rest)).2
      else .error ⟨.invalidNumber, c :: rest, 1⟩

/-! ## Values -/

def readColon (text : List Char) : Except Fault (List Char) :=
  match skipSpaces text with
  | [] => .error (.before .endInObject [])
  | ':' :: rest => .ok rest
  | text => .error (.at_ .expectedColon text)

/--
The text from the next item on, or `none` and the text behind the bracket that
closes the list.
-/
def nextItem (first : Bool) (text : List Char) : Except Fault (Bool × List Char) :=
  match skipSpaces text with
  | [] => .error (.before .endInList [])
  | ']' :: rest => .ok (false, rest)
  | text =>
      if first then .ok (true, text)
      else
        match text with
        | ',' :: rest =>
            match skipSpaces rest with
            | [] => .error (.before .endInValue [])
            | ']' :: rest => .error (.at_ .trailingComma (']' :: rest))
            | text => .ok (true, text)
        | text => .error (.at_ .expectedListEnd text)

/--
The text behind the opening quote of the next key, or `none` and the text behind
the brace that closes the object.
-/
def nextKey (first : Bool) (text : List Char) : Except Fault (Bool × List Char) :=
  match skipSpaces text with
  | [] => .error (.before .endInObject [])
  | '}' :: rest => .ok (false, rest)
  | text =>
      if first then
        match text with
        | '"' :: rest => .ok (true, rest)
        | text => .error (.at_ .keyNotString text)
      else
        match text with
        | ',' :: rest =>
            match skipSpaces rest with
            | [] => .error (.before .endInValue [])
            | '"' :: rest => .ok (true, rest)
            | '}' :: rest => .error (.at_ .trailingComma ('}' :: rest))
            | text => .error (.at_ .keyNotString text)
        | text => .error (.at_ .expectedObjectEnd text)

mutual

/-- Reads a value; `depth` bounds how deep the values in it may nest. -/
def readValue : (fuel depth : Nat) → List Char → Except Fault (Json × List Char)
  | 0, _, text => .error (.before .endInValue text)
  | fuel + 1, depth, text =>
      match skipSpaces text with
      | [] => .error (.before .endInValue [])
      | 'n' :: rest => readWord .null ['u', 'l', 'l'] rest
      | 't' :: rest => readWord (.bool true) ['r', 'u', 'e'] rest
      | 'f' :: rest => readWord (.bool false) ['a', 'l', 's', 'e'] rest
      | '"' :: rest => do
          let (chars, rest) ← readString rest
          .ok (.string (String.ofList chars), rest)
      | '-' :: rest => do
          let (value, rest) ← readNumber false rest
          .ok (.number value, rest)
      | '[' :: rest =>
          if depth ≤ 1 then .error (.at_ .tooDeep ('[' :: rest))
          else do
            let (items, rest) ← readItems fuel (depth - 1) true rest
            .ok (.array items, rest)
      | '{' :: rest =>
          if depth ≤ 1 then .error (.at_ .tooDeep ('{' :: rest))
          else do
            let (members, rest) ← readMembers fuel (depth - 1) true rest
            .ok (.object (Members.ofList members), rest)
      | c :: rest =>
          if c.isDigit then do
            let (value, rest) ← readNumber true (c :: rest)
            .ok (.number value, rest)
          else .error (.at_ .expectedValue (c :: rest))

def readItems : (fuel depth : Nat) → Bool → List Char → Except Fault (List Json × List Char)
  | 0, _, _, text => .error (.before .endInList text)
  | fuel + 1, depth, first, text => do
      let (more, rest) ← nextItem first text
      if more then do
        let (item, rest) ← readValue fuel depth rest
        let (items, rest) ← readItems fuel depth false rest
        .ok (item :: items, rest)
      else .ok ([], rest)

def readMembers : (fuel depth : Nat) → Bool → List Char →
    Except Fault (List (String × Json) × List Char)
  | 0, _, _, text => .error (.before .endInObject text)
  | fuel + 1, depth, first, text => do
      let (more, rest) ← nextKey first text
      if more then do
        let (key, rest) ← readString rest
        let rest ← readColon rest
        let (value, rest) ← readValue fuel depth rest
        let (members, rest) ← readMembers fuel depth false rest
        .ok ((String.ofList key, value) :: members, rest)
      else .ok ([], rest)

end

/-- The depth at which values may no longer nest. -/
def maxDepth : Nat := 128

def readDocument (text : List Char) : Except Fault Json := do
  let (value, rest) ← readValue (2 * text.length + 2) maxDepth text
  match skipSpaces rest with
  | [] => .ok value
  | rest => .error (.at_ .trailingCharacters rest)

def parse (text : String) : Except SyntaxError Json :=
  match readDocument text.toList with
  | .ok value => .ok value
  | .error fault => .error ⟨fault.cause, fault.position text.toList⟩

end Json

end Toolbench
