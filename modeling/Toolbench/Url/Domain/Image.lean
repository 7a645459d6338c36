import Toolbench.Text.Case
import Toolbench.Text.Split
import Toolbench.Url.Domain.ImageTable

/-!
# Images of characters

Names that differ in case, in width or in the style of their letters are the same
name, so each character has an image that all its variants share.
-/

namespace Toolbench

namespace Url

namespace Domain

def ImageBlock.image? (block : ImageBlock) (code : Nat) : Option (List Char) :=
  if block.first ≤ code && code ≤ block.last then
    (Text.splitAt ' ' block.images.toList)[code - block.first]?
  else none

/-- Whether no name may hold the character; the ASCII ones are judged as parts of a label. -/
def isRefused (c : Char) : Bool :=
  Text.inRanges refusedRanges c.toNat

def isIgnored (c : Char) : Bool :=
  Text.inRanges ignoredRanges c.toNat

def imageText (c : Char) : List Char :=
  if c.toNat < 0x80 then [c.toLower]
  else (imageBlocks.findSome? fun block => block.image? c.toNat).getD (Text.lowerChar c)

/-- The text in place of a character, unless no name may hold it. -/
def image? (c : Char) : Option (List Char) :=
  if isRefused c then none
  else if isIgnored c then some []
  else some (imageText c)

def isItself (c : Char) : Bool :=
  image? c == some [c]

def imagesOf? (text : List Char) : Option (List Char) :=
  (text.mapM image?).map List.flatten

end Domain

end Url

end Toolbench
