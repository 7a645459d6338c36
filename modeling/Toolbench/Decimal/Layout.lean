import Toolbench.Decimal.Shortest

/-!
# Writing floating-point numbers

Positional and scientific layouts of the shortest digits.
-/

namespace Toolbench

namespace Decimal

/-- The power of ten of the first digit. -/
def firstPower (d : Decimal) : Int :=
  Int.ofNat (digitChars d.digits).length - 1 + d.exponent

/-- All digits in place, with a point and at least one digit on either side of it. -/
def positional (d : Decimal) : String :=
  let digits := digitChars d.digits
  match d.exponent with
  | .ofNat e => String.ofList (digits ++ List.replicate e '0') ++ ".0"
  | .negSucc e =>
      let places := e + 1
      let padded := List.replicate (places + 1 - digits.length) '0' ++ digits
      let whole := padded.take (padded.length - places)
      let fraction := padded.drop (padded.length - places)
      String.ofList (whole ++ '.' :: fraction)

/-- One digit before the point, and the power of ten with its sign. -/
def scientific (d : Decimal) : String :=
  let power := d.firstPower
  let mantissa := match digitChars d.digits with
    | [] => []
    | [only] => [only]
    | first :: rest => first :: '.' :: rest
  String.ofList mantissa ++ "e" ++ (if power < 0 then "-" else "+") ++ natText power.natAbs

end Decimal

namespace Binary64

def signText (x : Binary64) : String :=
  if x.negative then "-" else ""

def plainText (x : Binary64) : String :=
  x.signText ++ (Decimal.shortest x).positional

/--
The shortest digits, in place where the first of them stands for a power of ten
from `-5` to `15` and in scientific layout elsewhere.
-/
def shortText (x : Binary64) : String :=
  let decimal := Decimal.shortest x
  let power := decimal.firstPower
  x.signText ++ if -5 ≤ power && power < 16 then decimal.positional else decimal.scientific

end Binary64

end Toolbench
