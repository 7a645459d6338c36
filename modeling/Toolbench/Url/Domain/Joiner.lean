import Toolbench.Url.Domain.JoinerTable
import Toolbench.Url.Domain.Mark

/-!
# Joiners

Two invisible characters make letters join or keep them from joining.  They may stand
only where that shows.
-/

namespace Toolbench

namespace Url

namespace Domain

def joiner : Char := '\u200d'

def nonJoiner : Char := '\u200c'

def isPassed (c : Char) : Bool :=
  isNonspacing c || [0xCBF, 0xCC6, 0x11A07, 0x11A08, 0x11C3F, 0x1E94B].contains c.toNat

def meets (ranges : List (Nat × Nat)) (context : List Char) : Bool :=
  (context.dropWhile isPassed).head?.any fun c => Text.inRanges ranges c.toNat

/-- Whether joiners stand where they show; the characters before come nearest first. -/
def joinersShow (before : List Char) : List Char → Bool
  | [] => true
  | c :: rest =>
      let shows :=
        if c = joiner then before.head?.any isVirama
        else if c = nonJoiner then
          before.head?.any isVirama ||
            (meets joinsNextRanges before && meets joinsPreviousRanges rest)
        else true
      shows && joinersShow (c :: before) rest

end Domain

end Url

end Toolbench
