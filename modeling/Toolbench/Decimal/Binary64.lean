/-!
# Binary floating-point numbers

The finite numbers of the 64-bit binary format as exact triples, and rounding a
fraction to the nearest of them with ties to the even significand.
-/

namespace Toolbench

/--
A finite number `± significand · 2 ^ exponent`.  The significand has 53 bits,
fewer only at the least exponent, so each number has one form for each sign.
-/
structure Binary64 where
  negative : Bool
  significand : Nat
  exponent : Int
  normal : significand < 0x20000000000000 ∧ -1074 ≤ exponent ∧ exponent ≤ 971 ∧
    (0x10000000000000 ≤ significand ∨ exponent = -1074)
deriving DecidableEq

namespace Binary64

/-- The number with the given parts, if they are in normal form. -/
def ofParts? (negative : Bool) (significand : Nat) (exponent : Int) : Option Binary64 :=
  if h : significand < 0x20000000000000 ∧ -1074 ≤ exponent ∧ exponent ≤ 971 ∧
      (0x10000000000000 ≤ significand ∨ exponent = -1074) then
    some ⟨negative, significand, exponent, h⟩
  else
    none

def zero (negative : Bool) : Binary64 :=
  ⟨negative, 0, -1074, by decide⟩

def isZero (x : Binary64) : Bool :=
  x.significand == 0

def neg (x : Binary64) : Binary64 :=
  { x with negative := !x.negative }

/-- A quotient rounded to the nearest integer, a half to the even one. -/
def divRound (num den : Nat) : Nat :=
  let quotient := num / den
  let twice := 2 * (num % den)
  if den < twice || (twice == den && quotient % 2 == 1) then quotient + 1 else quotient

/-- The fraction `num / (den · 2 ^ exponent)` as a numerator and a denominator. -/
def shiftRatio (num den : Nat) (exponent : Int) : Nat × Nat :=
  match exponent with
  | .ofNat e => (num, den * Nat.pow 2 e)
  | .negSucc e => (num * Nat.pow 2 (e + 1), den)

/-- The exponent at which the fraction `num / den` has a significand of 53 bits. -/
def ratioExponent (num den : Nat) : Int :=
  let guess : Int := Int.ofNat (Nat.log2 num) - Int.ofNat (Nat.log2 den) - 52
  let shifted := shiftRatio num den guess
  max (if shifted.1 / shifted.2 < 0x10000000000000 then guess - 1 else guess) (-1074)

/--
The number nearest to the fraction `± num / den`; `none` where that exceeds
every finite number.
-/
def ofRatio? (negative : Bool) (num den : Nat) : Option Binary64 :=
  if num == 0 then some (zero negative)
  else
    let exponent := ratioExponent num den
    let shifted := shiftRatio num den exponent
    let rounded := divRound shifted.1 shifted.2
    if rounded == 0x20000000000000 then ofParts? negative 0x10000000000000 (exponent + 1)
    else ofParts? negative rounded exponent

/-- The magnitude of the number as a numerator and a denominator. -/
def ratio (x : Binary64) : Nat × Nat :=
  match x.exponent with
  | .ofNat e => (x.significand * Nat.pow 2 e, 1)
  | .negSucc e => (x.significand, Nat.pow 2 (e + 1))

def ofInt? (value : Int) : Option Binary64 :=
  ofRatio? (value < 0) value.natAbs 1

def mul? (x y : Binary64) : Option Binary64 :=
  ofRatio? (x.negative != y.negative) (x.ratio.1 * y.ratio.1) (x.ratio.2 * y.ratio.2)

/-- The rounded quotient; `none` also where the divisor is zero. -/
def div? (x y : Binary64) : Option Binary64 :=
  if y.isZero then none
  else ofRatio? (x.negative != y.negative) (x.ratio.1 * y.ratio.2) (x.ratio.2 * y.ratio.1)

def toInt? (x : Binary64) : Option Int :=
  let magnitude := x.ratio
  if magnitude.1 % magnitude.2 == 0 then
    let whole := Int.ofNat (magnitude.1 / magnitude.2)
    some (if x.negative then -whole else whole)
  else
    none

/-- Equality of values: the two zeros are one value. -/
def sameValue (x y : Binary64) : Bool :=
  x == y || (x.isZero && y.isZero)

end Binary64

end Toolbench
