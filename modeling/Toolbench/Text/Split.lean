/-!
# Splitting texts
-/

namespace Toolbench

namespace Text

/-- The parts of a text between the occurrences of a separator; there is always one. -/
def splitAt (separator : Char) : List Char → List (List Char)
  | [] => [[]]
  | c :: rest =>
      if c = separator then [] :: splitAt separator rest
      else
        match splitAt separator rest with
        | first :: others => (c :: first) :: others
        | [] => [[c]]

end Text

end Toolbench
