import Toolbench.Decimal.Read

/-!
# Floating-point literals

Texts that spell a floating-point number: an optional sign, and digits with at
most one point and an optional exponent, or a word for infinity or for no number.
-/

namespace Toolbench

inductive Floating where
  | finite (value : Binary64)
  | infinite (negative : Bool)
  | notANumber
deriving DecidableEq

namespace Floating

/-- The text of a number, all digits in place; `finite` has its own layouts. -/
def specialText : Floating → String
  | finite _ => ""
  | infinite true => "-inf"
  | infinite false => "inf"
  | notANumber => "NaN"

def digitsValue (digits : List Char) : Nat :=
  digits.foldl (fun value c => value * 10 + (c.toNat - 0x30)) 0

def isDigits (text : List Char) : Bool :=
  !text.isEmpty && text.all Char.isDigit

def exponent? (text : List Char) : Option Int :=
  match text with
  | '+' :: digits => if isDigits digits then some (digitsValue digits) else none
  | '-' :: digits => if isDigits digits then some (-(digitsValue digits : Int)) else none
  | digits => if isDigits digits then some (digitsValue digits) else none

/-- Digits with at most one point among them and an optional exponent. -/
def decimal? (negative : Bool) (text : List Char) : Option Floating := do
  let isMark := fun c : Char => c = 'e' || c = 'E'
  let mantissa := text.takeWhile fun c => !isMark c
  let whole := mantissa.takeWhile (· != '.')
  let fraction := (mantissa.dropWhile (· != '.')).drop 1
  if !(isDigits (whole ++ fraction)) then none
  let power ← match text.dropWhile fun c => !isMark c with
    | [] => some 0
    | _ :: behind => exponent? behind
  match Binary64.nearest? negative (digitsValue (whole ++ fraction)) (power - fraction.length) with
  | some value => some (.finite value)
  | none => some (.infinite negative)

def unsigned? (negative : Bool) (text : List Char) : Option Floating :=
  let word := String.ofList (text.map Char.toLower)
  if word == "inf" || word == "infinity" then some (.infinite negative)
  else if word == "nan" then some .notANumber
  else decimal? negative text

def ofText? (text : List Char) : Option Floating :=
  match text with
  | '-' :: rest => unsigned? true rest
  | '+' :: rest => unsigned? false rest
  | text => unsigned? false text

end Floating

/-- The integer that a text spells: an optional sign and digits. -/
def integerText? (text : List Char) : Option Int :=
  match text with
  | '-' :: digits =>
      if Floating.isDigits digits then some (-(Floating.digitsValue digits : Int)) else none
  | '+' :: digits =>
      if Floating.isDigits digits then some (Floating.digitsValue digits) else none
  | digits => if Floating.isDigits digits then some (Floating.digitsValue digits) else none

end Toolbench
