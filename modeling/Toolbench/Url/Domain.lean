import Toolbench.Text.Utf8
import Toolbench.Url.Domain.Direction
import Toolbench.Url.Domain.Image
import Toolbench.Url.Domain.Joiner
import Toolbench.Url.Punycode

/-!
# Domain names

A domain name is brought to the characters that its variants share, and then to ASCII
label by label.  Characters that could end the host of an address are refused.
-/

namespace Toolbench

namespace Url

namespace Domain

def isForbidden (c : Char) : Bool :=
  c.toNat ≤ 0x20 || c.toNat = 0x7F || "%#/:<>?@[\\]^|".toList.contains c

/-- The mark of labels that hold other characters than they spell. -/
def encodedMark : List Char := ['x', 'n', '-', '-']

def labelLimit : Nat := 1000

def encodedLimit : Nat := 2000

def isAscii (label : List Char) : Bool :=
  label.all (·.toNat < 0x80)

def isWideLabel (label : List Char) : Bool :=
  !label.head?.any isMark && joinersShow [] label && label.length ≤ labelLimit

/-- Whether a label is in the form that its variants share. -/
def isShared (label : List Char) : Bool :=
  label.all (fun c => isItself c && !isForbidden c && c != '.') && normalize label == label

/-- A label in the characters that it is read in and in those that it is written in. -/
structure Label where
  read : List Char
  written : List Char

/-- A label of which every character is an image. -/
def Label.ofImages? (text : List Char) : Option Label :=
  if text.any isForbidden then none
  else if encodedMark.isPrefixOf text then do
    let digits := text.drop encodedMark.length
    if digits.isEmpty || digits.getLast? = some '-' || encodedLimit < digits.length then none
    let wide ← Punycode.decode? digits
    if isShared wide && isWideLabel wide then some ⟨wide, text⟩ else none
  else if isAscii text then some ⟨text, text⟩
  else if isWideLabel text then some ⟨text, encodedMark ++ Punycode.encode text⟩
  else none

def toAscii? (bytes : Text.Bytes) : Option (List Char) := do
  let text ← Text.Utf8.decode? bytes
  let images ← imagesOf? text.toList
  let labels ← (Text.splitAt '.' (normalize images)).mapM Label.ofImages?
  if haveDirections (labels.map Label.read) then
    some (['.'].intercalate (labels.map Label.written))
  else none

end Domain

end Url

end Toolbench
