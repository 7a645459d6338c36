/-!
# Punycode

Labels of domain names in ASCII: the ASCII characters come first, and the places and
codes of the others are written as differences in digits of base 36.
-/

namespace Toolbench

namespace Url

namespace Punycode

def digitChar (n : Nat) : Char :=
  if n < 26 then Char.ofNat (0x61 + n) else Char.ofNat (0x16 + n)

def digitValue? (c : Char) : Option Nat :=
  if c.isLower then some (c.toNat - 0x61)
  else if c.isUpper then some (c.toNat - 0x41)
  else if c.isDigit then some (c.toNat - 0x16)
  else none

/-- The least value that makes a digit at `place` be followed by another one. -/
def threshold (bias place : Nat) : Nat :=
  min 26 (max 1 (place - bias))

/-- Divides a difference by 35 until it is at most 455; counts the divisions. -/
def shrink (delta : Nat) : Nat × Nat :=
  if 455 < delta then
    let (rest, count) := shrink (delta / 35)
    (rest, count + 1)
  else (delta, 0)
termination_by delta
decreasing_by exact Nat.div_lt_self (by omega) (by omega)

/-- The bias behind a difference, given how many characters there are then. -/
def adapt (delta count : Nat) (first : Bool) : Nat :=
  let delta := if first then delta / 700 else delta / 2
  let (rest, divisions) := shrink (delta + delta / count)
  36 * divisions + 36 * rest / (rest + 38)

def differenceChars (bias place delta : Nat) : List Char :=
  let t := threshold bias place
  if delta < t then [digitChar delta]
  else
    digitChar (t + (delta - t) % (36 - t)) ::
      differenceChars bias (place + 36) ((delta - t) / (36 - t))
termination_by delta
decreasing_by
  have ht : 1 ≤ threshold bias place ∧ threshold bias place ≤ 26 := by
    unfold threshold
    omega
  calc (delta - threshold bias place) / (36 - threshold bias place)
      ≤ delta - threshold bias place := Nat.div_le_self _ _
    _ < delta := by omega

structure Encoding where
  reversed : List Char := []
  delta : Nat := 0
  bias : Nat := 72
  /-- How many characters are written already. -/
  written : Nat

/-- Passes a character of the label while those of one code are written. -/
def Encoding.pass (ascii code : Nat) (state : Encoding) (c : Char) : Encoding :=
  if c.toNat < code then { state with delta := state.delta + 1 }
  else if c.toNat = code then
    { reversed := (differenceChars state.bias 36 state.delta).reverse ++ state.reversed
      delta := 0
      bias := adapt state.delta (state.written + 1) (state.written == ascii)
      written := state.written + 1 }
  else state

def encodeCodes (label : List Char) (ascii : Nat) : Nat → List Nat → Encoding → Encoding
  | _, [], state => state
  | least, code :: codes, state =>
      let start := { state with delta := state.delta + (code - least) * (state.written + 1) }
      let state := label.foldl (Encoding.pass ascii code) start
      encodeCodes label ascii (code + 1) codes { state with delta := state.delta + 1 }

/-- The codes beyond ASCII in a label, ascending and each once. -/
def wideCodes (label : List Char) : List Nat :=
  let codes := (label.map Char.toNat).filter (0x80 ≤ ·)
  (codes.mergeSort fun a b => a ≤ b).eraseDups

/-- A label in ASCII, without the mark of such labels. -/
def encode (label : List Char) : List Char :=
  let ascii := label.filter fun c => c.toNat < 0x80
  let state :=
    encodeCodes label ascii.length 0x80 (wideCodes label) { written := ascii.length }
  ascii ++ (if ascii.isEmpty then [] else ['-']) ++ state.reversed.reverse

def readDifference (bias : Nat) : Nat → Nat → Nat → List Char → Option (Nat × List Char)
  | _, _, _, [] => none
  | place, weight, sum, c :: rest => do
      let digit ← digitValue? c
      let t := threshold bias place
      let sum := sum + digit * weight
      if digit < t then some (sum, rest)
      else readDifference bias (place + 36) (weight * (36 - t)) sum rest

def decodeFrom (fuel bias code place : Nat) (label : List Char) (text : List Char) :
    Option (List Char) :=
  match fuel, text with
  | _, [] => some label
  | 0, _ => none
  | fuel + 1, text => do
      let (delta, rest) ← readDifference bias 36 1 0 text
      let count := label.length + 1
      let next := code + (place + delta) / count
      let position := (place + delta) % count
      if h : next.isValidChar then
        let c := Char.ofNatAux next h
        decodeFrom fuel (adapt delta count (code == 0x80 && label.all (·.toNat < 0x80))) next
          (position + 1) (label.take position ++ c :: label.drop position) rest
      else none

/-- What is before the last hyphen and the text behind it; a hyphen needs something before it. -/
def splitLastHyphen (text : List Char) : List Char × List Char :=
  let behind := (text.reverse.takeWhile (· != '-')).reverse
  let before := text.take (text.length - behind.length - 1)
  (before, if before.isEmpty then text else behind)

def decode? (text : List Char) : Option (List Char) :=
  let (ascii, differences) := splitLastHyphen text
  if ascii.all (·.toNat < 0x80) then
    decodeFrom differences.length 72 0x80 0 ascii differences
  else none

end Punycode

end Url

end Toolbench
