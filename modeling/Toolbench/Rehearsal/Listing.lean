import Toolbench.Text.Utf8

/-!
# Listings

Ways to show bytes: with numbers in front of lines, marks at their ends, and visible
texts for bytes that are none.
-/

namespace Toolbench

namespace Rehearsal

open Text (Bytes)

structure Listing where
  numbers : Bool := false
  /-- Whether empty lines get no number. -/
  skipsEmpty : Bool := false
  /-- Whether only one of some empty lines in a row is shown. -/
  squeezes : Bool := false
  showsEnds : Bool := false
  showsTabs : Bool := false
  showsOthers : Bool := false

namespace Listing

/-- The listing with one more option, which a letter names. -/
def add? (listing : Listing) (letter : Char) : Option Listing :=
  match letter with
  | 'A' => some { listing with showsEnds := true, showsTabs := true, showsOthers := true }
  | 'b' => some { listing with numbers := true, skipsEmpty := true }
  | 'e' => some { listing with showsEnds := true, showsOthers := true }
  | 'E' => some { listing with showsEnds := true }
  | 'n' => some { listing with numbers := true }
  | 's' => some { listing with squeezes := true }
  | 't' => some { listing with showsTabs := true, showsOthers := true }
  | 'T' => some { listing with showsTabs := true }
  | 'u' => some listing
  | 'v' => some { listing with showsOthers := true }
  | _ => none

def longNames : List (String × Char) :=
  [("--show-all", 'A'), ("--number-nonblank", 'b'), ("--show-ends", 'E'), ("--number", 'n'),
    ("--squeeze-blank", 's'), ("--show-tabs", 'T'), ("--show-nonprinting", 'v')]

def showLow (value : Nat) : List Nat :=
  if value < 0x20 then [0x5E, value + 0x40] else if value = 0x7F then [0x5E, 0x3F] else [value]

def showByte (listing : Listing) (byte : UInt8) : Bytes :=
  let value := byte.toNat
  if value = 9 then if listing.showsTabs then [0x5E, 0x49] else [byte]
  else if !listing.showsOthers then [byte]
  else if value < 0x80 then (showLow value).map UInt8.ofNat
  else (0x4D :: 0x2D :: showLow (value - 0x80)).map UInt8.ofNat

def number (count : Nat) : Bytes :=
  let digits := Nat.toDigits 10 count
  Text.Utf8.encodeChars (List.replicate (6 - digits.length) ' ' ++ digits ++ ['\t'])

/-- The lines of some bytes, each without the line break that ends all but the last of them. -/
def linesOf : Bytes → List Bytes
  | [] => [[]]
  | byte :: rest =>
      if byte = 0x0A then [] :: linesOf rest
      else
        match linesOf rest with
        | first :: others => (byte :: first) :: others
        | [] => [[byte]]

def showLines (listing : Listing) : Nat → Bool → List Bytes → Bytes
  | _, _, [] => []
  | count, behindEmpty, line :: rest =>
      let isLast := rest.isEmpty
      if line.isEmpty && isLast then []
      else if line.isEmpty && behindEmpty && listing.squeezes then
        showLines listing count true rest
      else
        let isNumbered := listing.numbers && !(listing.skipsEmpty && line.isEmpty)
        let ending := if isLast then [] else if listing.showsEnds then [0x24, 0x0A] else [0x0A]
        (if isNumbered then number count else []) ++ line.flatMap listing.showByte ++ ending ++
          showLines listing (if isNumbered then count + 1 else count) line.isEmpty rest

def show_ (listing : Listing) (bytes : Bytes) : Bytes :=
  listing.showLines 1 false (linesOf bytes)

end Listing

end Rehearsal

end Toolbench
