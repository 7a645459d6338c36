/-!
# Names

The two kinds of names: identifiers, which parameters have and placeholders
refer to, and tool names, which may also hold hyphens and dots.
-/

namespace Toolbench

namespace Name

/-- The characters that a name starts with: ASCII letters and the underscore. -/
def isStart (c : Char) : Bool :=
  c.isAlpha || c = '_'

/-- The characters of an identifier: ASCII letters, digits and the underscore. -/
def isPart (c : Char) : Bool :=
  c.isAlphanum || c = '_'

def isToolPart (c : Char) : Bool :=
  isPart c || c = '-' || c = '.'

/-- A start character followed by identifier characters. -/
def isIdentifier : List Char → Bool
  | [] => false
  | c :: rest => isStart c && rest.all isPart

def isToolName : List Char → Bool
  | [] => false
  | c :: rest => isStart c && rest.all isToolPart

end Name

end Toolbench
