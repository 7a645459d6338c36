import Toolbench.Decimal.Literal
import Toolbench.Text.Hex

/-!
# Numbers of programs

How standard programs read a number from the start of a word, and the layouts in which
they write numbers.
-/

namespace Toolbench

namespace Rehearsal

structure Prefix (α : Type) where
  value : α
  /-- Whether there is a number at the start. -/
  found : Bool := true
  /-- What is behind the number. -/
  rest : List Char := []

def isSpace (c : Char) : Bool :=
  c = ' ' || (9 ≤ c.toNat && c.toNat ≤ 13)

/-- Whether a minus sign is in front of a number, and the text behind any sign. -/
def splitSign (text : List Char) : Bool × List Char :=
  match text with
  | '-' :: rest => (true, rest)
  | '+' :: rest => (false, rest)
  | _ => (false, text)

/-- The base of an integer, which its first digits tell, and the digits. -/
def splitBase (text : List Char) : Nat × List Char :=
  match text with
  | '0' :: x :: c :: rest =>
      if (x = 'x' || x = 'X') && (Text.Hex.value? c).isSome then (16, c :: rest) else (8, text)
  | '0' :: _ => (8, text)
  | _ => (10, text)

def readInteger (text : List Char) : Prefix Int :=
  let (negative, unsigned) := splitSign (text.dropWhile isSpace)
  let (base, digits) := splitBase unsigned
  let isDigit := fun c => (Text.Hex.value? c).any (· < base)
  let read := digits.takeWhile isDigit
  let size : Int := read.foldl (fun sum c => sum * base + (Text.Hex.value? c).getD 0) 0
  if read.isEmpty then { value := 0, found := false, rest := text }
  else { value := if negative then -size else size, rest := digits.dropWhile isDigit }

inductive Real where
  | ratio (negative : Bool) (num den : Nat)
  | infinite (negative : Bool)
  | notANumber (negative : Bool)

/-- The exponent behind a mark, and the text behind it; without digits there is none. -/
def readExponent (marks : List Char) (text : List Char) : Int × List Char :=
  match text with
  | mark :: rest =>
      let (negative, digits) := splitSign rest
      let read := digits.takeWhile Char.isDigit
      if !marks.contains mark || read.isEmpty then (0, text)
      else
        let size := min 20000 (Floating.digitsValue read)
        (if negative then -(size : Int) else size, digits.dropWhile Char.isDigit)
  | [] => (0, [])

/-- A number of digits with a point among them, scaled by powers of a base. -/
def readDigits (negative : Bool) (base : Nat) (text : List Char) : Prefix Real :=
  let isDigit := fun c => (Text.Hex.value? c).any (· < base)
  let whole := text.takeWhile isDigit
  let behind := text.dropWhile isDigit
  let (fraction, behind) := match behind with
    | '.' :: rest => (rest.takeWhile isDigit, rest.dropWhile isDigit)
    | _ => ([], behind)
  let value := (whole ++ fraction).foldl (fun sum c => sum * base + (Text.Hex.value? c).getD 0) 0
  let (power, rest) := readExponent (if base = 16 then ['p', 'P'] else ['e', 'E']) behind
  let scale := if base = 16 then 2 else 10
  let den := Nat.pow base fraction.length
  { value := match power with
      | .ofNat e => .ratio negative (value * Nat.pow scale e) den
      | .negSucc e => .ratio negative value (den * Nat.pow scale (e + 1))
    found := !(whole ++ fraction).isEmpty
    rest }

def readReal (text : List Char) : Prefix Real :=
  let (negative, unsigned) := splitSign (text.dropWhile isSpace)
  let starts := fun word : String => word.toList.isPrefixOf (unsigned.map Char.toLower)
  if starts "infinity" then { value := .infinite negative, rest := unsigned.drop 8 }
  else if starts "inf" then { value := .infinite negative, rest := unsigned.drop 3 }
  else if starts "nan" then { value := .notANumber negative, rest := unsigned.drop 3 }
  else
    let read :=
      match splitBase unsigned with
      | (16, digits) => readDigits negative 16 digits
      | _ => readDigits negative 10 unsigned
    if read.found then read else { read with rest := text }

/-- The number nearest to a fraction of those with that many significant bits. -/
def roundBits (bits : Nat) (num den : Nat) : Nat × Nat :=
  if num = 0 then (0, 1)
  else
    let guess : Int := Int.ofNat (Nat.log2 num) - Int.ofNat (Nat.log2 den) - (bits - 1 : Nat)
    let shifted := Binary64.shiftRatio num den guess
    let exponent := if shifted.1 / shifted.2 < Nat.pow 2 (bits - 1) then guess - 1 else guess
    let shifted := Binary64.shiftRatio num den exponent
    let significand := Binary64.divRound shifted.1 shifted.2
    match exponent with
    | .ofNat e => (significand * Nat.pow 2 e, 1)
    | .negSucc e => (significand, Nat.pow 2 (e + 1))

structure Layout where
  flags : List Char := []
  width : Nat := 0
  precision : Option Nat := none
  letter : Char

namespace Layout

def has (layout : Layout) (flag : Char) : Bool :=
  layout.flags.contains flag

def pad {α : Type} (layout : Layout) (space : α) (text : List α) : List α :=
  let spaces := List.replicate (layout.width - text.length) space
  if layout.has '-' then text ++ spaces else spaces ++ text

/-- A sign, a mark and digits, with spaces in front or zeros between up to the width. -/
def padNumber (layout : Layout) (zeros : Bool) (before digits : List Char) : List Char :=
  if zeros && layout.has '0' && !layout.has '-' then
    before ++ List.replicate (layout.width - before.length - digits.length) '0' ++ digits
  else layout.pad ' ' (before ++ digits)

def sign (layout : Layout) (negative : Bool) : List Char :=
  if negative then ['-'] else if layout.has '+' then ['+'] else if layout.has ' ' then [' '] else []

def digits (layout : Layout) (value : Nat) : List Char :=
  let digits :=
    if layout.letter = 'o' then Nat.toDigits 8 value
    else if layout.letter = 'x' then Nat.toDigits 16 value
    else if layout.letter = 'X' then (Nat.toDigits 16 value).map Char.toUpper
    else Nat.toDigits 10 value
  let digits := if value = 0 && layout.precision = some 0 then [] else digits
  let digits := List.replicate (layout.precision.getD 0 - digits.length) '0' ++ digits
  if layout.letter = 'o' && layout.has '#' && digits.head? != some '0' then '0' :: digits
  else digits

/-- The text of an integer, of which the letters for natural numbers show the last 64 bits. -/
def integer (layout : Layout) (value : Int) : List Char :=
  let isSigned := layout.letter = 'd' || layout.letter = 'i'
  let size := if isSigned then value.natAbs else (value % 0x10000000000000000).toNat
  let mark :=
    if (layout.letter = 'x' || layout.letter = 'X') && layout.has '#' && size ≠ 0 then
      ['0', layout.letter]
    else []
  let before := (if isSigned then layout.sign (value < 0) else []) ++ mark
  layout.padNumber layout.precision.isNone before (layout.digits size)

def fixed (layout : Layout) (places num den : Nat) : List Char :=
  let digits := Nat.toDigits 10 (Binary64.divRound (num * Nat.pow 10 places) den)
  let digits := List.replicate (places + 1 - digits.length) '0' ++ digits
  let whole := digits.take (digits.length - places)
  if places = 0 && !layout.has '#' then whole
  else whole ++ '.' :: digits.drop (digits.length - places)

def firstPower (num den : Nat) : Int :=
  let count := fun n => Int.ofNat (Nat.toDigits 10 n).length
  let guess := count num - count den
  let isBelow : Bool := match guess with
    | .ofNat e => num < den * Nat.pow 10 e
    | .negSucc e => num * Nat.pow 10 (e + 1) < den
  if isBelow then guess - 1 else guess

/-- The digits of a fraction, one of them before the point, and the power of ten of that one. -/
def scaled (places num den : Nat) : Nat × Int :=
  if num = 0 then (0, 0)
  else
    let power := firstPower num den
    let value := match places - power with
      | .ofNat e => Binary64.divRound (num * Nat.pow 10 e) den
      | .negSucc e => Binary64.divRound num (den * Nat.pow 10 (e + 1))
    if value = Nat.pow 10 (places + 1) then (value / 10, power + 1) else (value, power)

def pointed (layout : Layout) (places value : Nat) : List Char :=
  let digits := Nat.toDigits 10 value
  let digits := List.replicate (places + 1 - digits.length) '0' ++ digits
  if places = 0 && !layout.has '#' then digits else digits.take 1 ++ '.' :: digits.drop 1

/-- The mark of a power of ten and the power, in at least two digits. -/
def exponentText (layout : Layout) (power : Int) : List Char :=
  let digits := Nat.toDigits 10 power.natAbs
  (if layout.letter.isUpper then 'E' else 'e') :: (if power < 0 then '-' else '+') ::
    (List.replicate (2 - digits.length) '0' ++ digits)

/-- A text without the zeros at the end of its fraction, and without a point at its end. -/
def trimZeros (layout : Layout) (text : List Char) : List Char :=
  if layout.has '#' || !text.contains '.' then text
  else
    match text.reverse.dropWhile (· = '0') with
    | '.' :: rest => rest.reverse
    | rest => rest.reverse

def general (layout : Layout) (count num den : Nat) : List Char :=
  let (value, power) := scaled (count - 1) num den
  if power < -4 || (count : Int) ≤ power then
    layout.trimZeros (layout.pointed (count - 1) value) ++ layout.exponentText power
  else layout.trimZeros (layout.fixed ((count : Int) - 1 - power).toNat num den)

def fraction (layout : Layout) (num den : Nat) : List Char :=
  let places := layout.precision.getD 6
  if layout.letter = 'f' || layout.letter = 'F' then layout.fixed places num den
  else if layout.letter = 'e' || layout.letter = 'E' then
    let (value, power) := scaled places num den
    layout.pointed places value ++ layout.exponentText power
  else layout.general (max 1 places) num den

def real (layout : Layout) (bits : Nat) (value : Real) : List Char :=
  let word := fun text : String =>
    if layout.letter.isUpper then text.toUpper.toList else text.toList
  match value with
  | .ratio negative num den =>
      let (num, den) := roundBits bits num den
      layout.padNumber true (layout.sign negative) (layout.fraction num den)
  | .infinite negative => layout.padNumber false (layout.sign negative) (word "inf")
  | .notANumber negative => layout.padNumber false (layout.sign negative) (word "nan")

end Layout

end Rehearsal

end Toolbench
