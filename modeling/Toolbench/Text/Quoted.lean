import Toolbench.Text.Case
import Toolbench.Text.HiddenTable

/-!
# Quoted text

A text between double quotes as messages show it: quotes and backslashes are
escaped, and characters that would not be seen are written by letter or number.
-/

namespace Toolbench

namespace Text

def hexChars (n : Nat) : List Char :=
  Nat.toDigits 16 n

/-- Whether a character has no glyph of its own. -/
def isHidden (c : Char) : Bool :=
  inRanges hiddenRanges c.toNat

def quotedChar (c : Char) : List Char :=
  if c = '"' then ['\\', '"']
  else if c = '\\' then ['\\', '\\']
  else if c = '\n' then ['\\', 'n']
  else if c = '\r' then ['\\', 'r']
  else if c = '\t' then ['\\', 't']
  else if c.toNat = 0 then ['\\', '0']
  else if isHidden c then ['\\', 'u', '{'] ++ hexChars c.toNat ++ ['}']
  else [c]

def quoted (text : String) : String :=
  String.ofList ('"' :: text.toList.flatMap quotedChar ++ ['"'])

end Text

end Toolbench
