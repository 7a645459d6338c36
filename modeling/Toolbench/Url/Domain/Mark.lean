import Toolbench.Text.Case
import Toolbench.Url.Domain.DirectionTable
import Toolbench.Url.Domain.MarkTable

/-!
# Letters and their marks

A letter with marks can be written in several ways: with the marks behind it, in any
order of those that do not meet, or within it.  A normal text has as many marks within
letters as possible and the others in one order.
-/

namespace Toolbench

namespace Url

namespace Domain

/-- The order of a mark behind a letter; zero for what is no such mark. -/
def orderOf (c : Char) : Nat :=
  ((orderRuns.find? fun run => run.1 ≤ c.toNat && c.toNat ≤ run.2.1).map (·.2.2)).getD 0

/-- Whether a mark takes the vowel from the letter before it and joins the next one. -/
def isVirama (c : Char) : Bool :=
  orderOf c == 9

def isNonspacing (c : Char) : Bool :=
  Text.inRanges nonspacingRanges c.toNat

def isMark (c : Char) : Bool :=
  0x80 ≤ c.toNat && (isNonspacing c || Text.inRanges spacingMarkRanges c.toNat)

def letterPairs : List Char → List (Char × Char)
  | letter :: marked :: rest => (letter, marked) :: letterPairs rest
  | _ => []

namespace Hangul

/-- The first syllable; each is made of two or three letters. -/
def syllables : Nat := 0xAC00

def leads : Nat := 0x1100

def vowels : Nat := 0x1161

/-- The code point before the first letter that ends a syllable. -/
def tails : Nat := 0x11A7

/-- The two parts of a syllable: its first two letters, or the shorter syllable and its end. -/
def parts? (c : Char) : Option (Char × Char) :=
  if syllables ≤ c.toNat && c.toNat < syllables + 19 * 21 * 28 then
    let place := c.toNat - syllables
    if place % 28 = 0 then
      some (Char.ofNat (leads + place / 588), Char.ofNat (vowels + place % 588 / 28))
    else some (Char.ofNat (c.toNat - place % 28), Char.ofNat (tails + place % 28))
  else none

def join? (first second : Char) : Option Char :=
  let lead := first.toNat - leads
  let vowel := second.toNat - vowels
  let tail := second.toNat - tails
  let place := first.toNat - syllables
  if leads ≤ first.toNat && lead < 19 && vowels ≤ second.toNat && vowel < 21 then
    some (Char.ofNat (syllables + (lead * 21 + vowel) * 28))
  else if syllables ≤ first.toNat && place < 19 * 21 * 28 && place % 28 = 0 && 0 < tail &&
      tail < 28 then
    some (Char.ofNat (first.toNat + tail))
  else none

end Hangul

def parts? (c : Char) : Option (Char × Char) :=
  match Hangul.parts? c with
  | some parts => some parts
  | none =>
      markedLetters.findSome? fun (mark, letters) =>
        ((letterPairs letters.toList).find? fun pair => pair.2 == c).map fun pair =>
          (pair.1, Char.ofNat mark)

def join? (letter mark : Char) : Option Char :=
  match Hangul.join? letter mark with
  | some syllable => some syllable
  | none =>
      markedLetters.findSome? fun (code, letters) =>
        if code = mark.toNat then (letterPairs letters.toList).lookup letter else none

def marksWithin : Nat := 3

/-- A letter and the marks within it, of which there are at most so many. -/
def separate : Nat → Char → List Char
  | 0, c => [c]
  | most + 1, c =>
      match parts? c with
      | some (letter, mark) => separate most letter ++ [mark]
      | none => [c]

/-- Puts a character in front of a sorted text, behind the marks of lower order. -/
def insertMark (c : Char) : List Char → List Char
  | [] => [c]
  | d :: rest =>
      if 0 < orderOf d && orderOf d < orderOf c then d :: insertMark c rest else c :: d :: rest

def sortMarks (text : List Char) : List Char :=
  text.foldr insertMark []

/-- Whether a character behind a letter and marks, the last one first, does not meet the letter. -/
def isBlocked (marks : List Char) (c : Char) : Bool :=
  match marks with
  | [] => false
  | mark :: _ => orderOf c ≤ orderOf mark

/-- Joins what meets a letter, which has the given marks behind it, the last one first. -/
def joinFrom (letter : Char) (marks : List Char) : List Char → List Char
  | [] => letter :: marks.reverse
  | c :: rest =>
      match if isBlocked marks c then none else join? letter c with
      | some joined => joinFrom joined marks rest
      | none =>
          if orderOf c = 0 then letter :: marks.reverse ++ joinFrom c [] rest
          else joinFrom letter (c :: marks) rest

/-- Joins letters and marks; marks in front of the first letter stay. -/
def joinMarks : List Char → List Char
  | [] => []
  | c :: rest => if orderOf c = 0 then joinFrom c [] rest else c :: joinMarks rest

def normalize (text : List Char) : List Char :=
  joinMarks (sortMarks (text.flatMap (separate marksWithin)))

end Domain

end Url

end Toolbench
