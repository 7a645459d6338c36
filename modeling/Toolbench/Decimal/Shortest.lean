import Toolbench.Decimal.Binary64

/-!
# Shortest decimal digits

The fewest decimal digits that read back as the same binary number, and among
those the ones nearest to it.
-/

namespace Toolbench

/-- The number `digits · 10 ^ exponent`. -/
structure Decimal where
  digits : Nat
  exponent : Int
deriving DecidableEq

namespace Decimal

/-- The decimal digits of a natural number, most significant first. -/
def digitChars (n : Nat) : List Char :=
  Nat.toDigits 10 n

def natText (n : Nat) : String :=
  String.ofList (digitChars n)

def intText (n : Int) : String :=
  if n < 0 then "-" ++ natText n.natAbs else natText n.natAbs

/-- Drops the zeros at the end of a digit string, with the matching exponent. -/
def dropZeros : Nat → Nat → Int → Decimal
  | 0, digits, exponent => ⟨digits, exponent⟩
  | fuel + 1, digits, exponent =>
      if digits != 0 && digits % 10 == 0 then dropZeros fuel (digits / 10) (exponent + 1)
      else ⟨digits, exponent⟩

/-- The power of ten of the first digit of the fraction `num / den` below one. -/
def leadingBelowOne : Nat → Nat → Nat → Int → Int
  | 0, _, _, power => power
  | fuel + 1, num, den, power =>
      if den ≤ num then power else leadingBelowOne fuel (num * 10) den (power - 1)

def leadingPower (num den : Nat) : Int :=
  if den ≤ num then Int.ofNat (digitChars (num / den)).length - 1
  else leadingBelowOne 400 num den 0

/--
A grid of decimals seen from a binary number: `x` steps of the grid stand at
`x · step`, the number at `centre · scale`, and the numbers that read back as it
lie between `low · scale` and `high · scale`.
-/
structure Grid where
  step : Nat
  scale : Nat
  centre : Nat
  low : Nat
  high : Nat
  /-- Whether the two ends themselves read back. -/
  closed : Bool

/-- Whether a point of the grid reads back as the number. -/
def Grid.holds (grid : Grid) (point : Nat) : Bool :=
  let low := grid.low * grid.scale
  let high := grid.high * grid.scale
  let at' := point * grid.step
  if grid.closed then low ≤ at' && at' ≤ high else low < at' && at' < high

/-- The point of the grid that is nearest to the number, if one reads back as it. -/
def Grid.nearest? (grid : Grid) : Option Nat :=
  let value := grid.centre * grid.scale
  let below := value / grid.step
  let above := below + 1
  match grid.holds below, grid.holds above with
  | true, true =>
      let down := value - below * grid.step
      let up := above * grid.step - value
      if down < up || (down == up && below % 2 == 0) then some below else some above
  | true, false => some below
  | false, true => some above
  | false, false => none

def gridOf (x : Binary64) (power : Int) : Grid :=
  let unit : Nat × Nat :=
    match x.exponent - 2 with
    | .ofNat e => (Nat.pow 2 e, 1)
    | .negSucc e => (1, Nat.pow 2 (e + 1))
  let below := if x.significand == 0x10000000000000 && x.exponent != -1074 then 1 else 2
  let step := match power with
    | .ofNat k => Nat.pow 10 k * unit.2
    | .negSucc _ => unit.2
  let scale := match power with
    | .ofNat _ => unit.1
    | .negSucc k => unit.1 * Nat.pow 10 (k + 1)
  { step, scale, centre := 4 * x.significand, low := 4 * x.significand - below,
    high := 4 * x.significand + 2, closed := x.significand % 2 == 0 }

def shortestFrom (x : Binary64) (leading : Int) : Nat → Nat → Decimal
  | 0, _ => ⟨0, 0⟩
  | fuel + 1, digits =>
      let power := leading - Int.ofNat digits + 1
      match (gridOf x power).nearest? with
      | some point => dropZeros 20 point power
      | none => shortestFrom x leading fuel (digits + 1)

/-- The shortest decimal that reads back as the magnitude of the number. -/
def shortest (x : Binary64) : Decimal :=
  if x.isZero then ⟨0, 0⟩
  else shortestFrom x (leadingPower x.ratio.1 x.ratio.2) 17 1

end Decimal

end Toolbench
