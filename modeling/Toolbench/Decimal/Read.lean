import Toolbench.Decimal.Binary64

/-!
# Reading floating-point numbers

Two readings of a decimal: the nearest binary number, and a faster rule that
rounds the digits first and then scales them by rounded powers of ten.  The two
differ in the last bit for some long decimals.
-/

namespace Toolbench

namespace Binary64

/-- How a reading of a decimal ends when it is no finite number. -/
inductive Reading where
  | finite (value : Binary64)
  | tooLarge

/--
The number nearest to `± digits · 10 ^ exponent`.  Exponents far out of range are
cut off first: their decimals are beyond every finite number or below half the
least one.
-/
def nearest? (negative : Bool) (digits : Nat) (exponent : Int) : Option Binary64 :=
  let leading := Int.ofNat (Nat.toDigits 10 digits).length + exponent
  if digits == 0 || leading < -400 then some (zero negative)
  else if 400 < leading then none
  else
    match exponent with
    | .ofNat e => ofRatio? negative (digits * Nat.pow 10 e) 1
    | .negSucc e => ofRatio? negative digits (Nat.pow 10 (e + 1))

/-- The rounded power of ten, for exponents up to 308. -/
def powerOfTen (exponent : Nat) : Binary64 :=
  (ofRatio? false (Nat.pow 10 exponent) 1).getD (zero false)

/-- Scales by a power of ten in steps of at most 308. -/
def scaleDown : Nat → Binary64 → Nat → Binary64
  | 0, x, _ => x
  | fuel + 1, x, exponent =>
      if exponent ≤ 308 then (x.div? (powerOfTen exponent)).getD (zero false)
      else if x.isZero then x
      else scaleDown fuel ((x.div? (powerOfTen 308)).getD (zero false)) (exponent - 308)

/--
The digits rounded to a binary number, then multiplied or divided by a rounded
power of ten; `none` where that exceeds every finite number.
-/
def scaled? (digits : Nat) (exponent : Int) : Option Binary64 := do
  let x ← ofRatio? false digits 1
  match exponent with
  | .ofNat e =>
      if e ≤ 308 then x.mul? (powerOfTen e)
      else if x.isZero then some x
      else none
  | .negSucc e => some (scaleDown 10 x (e + 1))

end Binary64

end Toolbench
