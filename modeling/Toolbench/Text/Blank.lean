/-!
# Blank characters

The characters with the Unicode `White_Space` property, and cutting them off the
ends of a text.  A byte-order mark and the ASCII separators `1C` to `1F` are not
blank.
-/

namespace Toolbench

namespace Text

/-- The characters with the `White_Space` property. -/
def isBlank (c : Char) : Bool :=
  let code := c.toNat
  (0x9 ≤ code && code ≤ 0xD) || code == 0x20 || code == 0x85 || code == 0xA0 ||
    code == 0x1680 || (0x2000 ≤ code && code ≤ 0x200A) || code == 0x2028 ||
    code == 0x2029 || code == 0x202F || code == 0x205F || code == 0x3000

def dropBlanks (text : List Char) : List Char :=
  text.dropWhile isBlank

def trimBlanks (text : List Char) : List Char :=
  (dropBlanks (dropBlanks text).reverse).reverse

def trim (text : String) : String :=
  String.ofList (trimBlanks text.toList)

def isBlankText (text : String) : Bool :=
  text.toList.all isBlank

end Text

end Toolbench
