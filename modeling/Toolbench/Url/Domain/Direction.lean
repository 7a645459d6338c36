import Toolbench.Url.Domain.Mark

/-!
# Directions of labels

In a name with letters that are written from right to left, each label has one
direction, so that it is read in one way only.
-/

namespace Toolbench

namespace Url

namespace Domain

inductive Direction where
  | leftToRight
  | rightToLeft
  | digit
  | arabicDigit
  | neutral
  /-- A mark has the direction of the character before it. -/
  | mark
deriving DecidableEq

def Direction.ofChar (c : Char) : Direction :=
  let code := c.toNat
  if Text.inRanges rightToLeftRanges code then .rightToLeft
  else if Text.inRanges arabicDigitRanges code then .arabicDigit
  else if Text.inRanges digitRanges code then .digit
  else if Text.inRanges neutralRanges code then .neutral
  else if isNonspacing c then .mark
  else .leftToRight

/-- Whether a name that holds the character has text from right to left. -/
def isRightToLeft (c : Char) : Bool :=
  Direction.ofChar c == .rightToLeft || Direction.ofChar c == .arabicDigit

def hasDirection (label : List Char) : Bool :=
  let directions := label.map Direction.ofChar
  let ends := fun allowed : List Direction =>
    (directions.reverse.dropWhile (· == .mark)).head?.any allowed.contains
  match directions.head? with
  | some .leftToRight =>
      directions.all [.leftToRight, .digit, .neutral, .mark].contains &&
        ends [.leftToRight, .digit]
  | some .rightToLeft =>
      !directions.contains .leftToRight && ends [.rightToLeft, .digit, .arabicDigit] &&
        !(directions.contains .digit && directions.contains .arabicDigit)
  | some _ => false
  | none => true

/-- Whether the labels of a name may stand side by side. -/
def haveDirections (labels : List (List Char)) : Bool :=
  !labels.any (·.any isRightToLeft) || labels.all hasDirection

end Domain

end Url

end Toolbench
