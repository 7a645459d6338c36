import Toolbench.Decimal.Layout
import Toolbench.Json.Basic
import Toolbench.Text.Hex

/-!
# Writing JSON

Compact text: no blanks, members in the order in which the object holds them,
and only the quote, the backslash and the control characters escaped.
-/

namespace Toolbench

namespace Json

def escapeChar (c : Char) : List Char :=
  if c = '"' then ['\\', '"']
  else if c = '\\' then ['\\', '\\']
  else if c = '\n' then ['\\', 'n']
  else if c = '\r' then ['\\', 'r']
  else if c = '\t' then ['\\', 't']
  else if c.toNat = 0x8 then ['\\', 'b']
  else if c.toNat = 0xC then ['\\', 'f']
  else if c.toNat < 0x20 then
    ['\\', 'u', '0', '0', Text.Hex.lower (c.toNat / 16), Text.Hex.lower (c.toNat % 16)]
  else [c]

def escapeChars (text : List Char) : List Char :=
  text.flatMap escapeChar

def quoteChars (text : List Char) : List Char :=
  '"' :: escapeChars text ++ ['"']

def numberText : Number → String
  | .integer value => Decimal.intText value.value
  | .real value => value.shortText

mutual

def writeChars : Json → List Char
  | .null => ['n', 'u', 'l', 'l']
  | .bool true => ['t', 'r', 'u', 'e']
  | .bool false => ['f', 'a', 'l', 's', 'e']
  | .number value => (numberText value).toList
  | .string text => quoteChars text.toList
  | .array [] => ['[', ']']
  | .array (item :: items) => '[' :: writeChars item ++ writeItems items ++ [']']
  | .object [] => ['{', '}']
  | .object ((key, value) :: members) =>
      '{' :: quoteChars key.toList ++ ':' :: writeChars value ++ writeMembers members ++ ['}']

/-- Items after the first, each behind its comma. -/
def writeItems : List Json → List Char
  | [] => []
  | item :: items => ',' :: writeChars item ++ writeItems items

/-- Members after the first, each behind its comma. -/
def writeMembers : Members → List Char
  | [] => []
  | (key, value) :: members =>
      ',' :: quoteChars key.toList ++ ':' :: writeChars value ++ writeMembers members

end

/-- The compact text of a value. -/
def write (value : Json) : String :=
  String.ofList (writeChars value)

end Json

end Toolbench
