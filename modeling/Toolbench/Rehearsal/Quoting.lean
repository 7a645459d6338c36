import Toolbench.Text.Utf8

/-!
# Quoting

How programs quote words: in their complaints, and so that a shell reads the same word
again.  Bytes that are no visible characters are written as escapes.
-/

namespace Toolbench

namespace Rehearsal

namespace Quoting

def escapeLetters : List (Nat × Char) :=
  [(7, 'a'), (8, 'b'), (9, 't'), (10, 'n'), (11, 'v'), (12, 'f'), (13, 'r')]

def escape (byte : UInt8) : List Char :=
  match escapeLetters.lookup byte.toNat with
  | some letter => ['\\', letter]
  | none =>
      let digits := Nat.toDigits 8 byte.toNat
      '\\' :: (List.replicate (3 - digits.length) '0' ++ digits)

def isVisible (byte : UInt8) : Bool :=
  0x20 ≤ byte.toNat && byte.toNat < 0x7F

/-- A word in quotes, as complaints show it. -/
def quote (word : String) : String :=
  let shown := (Text.Utf8.encode word).flatMap fun byte =>
    let c := Char.ofNat byte.toNat
    if !isVisible byte then escape byte
    else if c = '\'' || c = '\\' then ['\\', c]
    else [c]
  String.ofList ('\'' :: shown ++ ['\''])

/-- Whether a shell would take a character for something else, where it stands. -/
def isSpecial (isFirst isAlone : Bool) (c : Char) : Bool :=
  " !\"$&'()*;<=>?[\\^\x60|".toList.contains c || ((c = '#' || c = '~') && isFirst) ||
    ((c = '\x7b' || c = '\x7d') && isAlone)

def isSame (isFirst : Bool) (c : Char) : Bool :=
  if c = '#' || c = '~' then isFirst else !"!\"$&()*;<=>?[\\^\x60|\x7b\x7d".toList.contains c

/-- The inside of a word in single quotes; escapes stand in quotes of another kind. -/
def inside : Bool → List UInt8 → List Char
  | _, [] => []
  | isEscaping, byte :: rest =>
      let c := Char.ofNat byte.toNat
      if !isVisible byte then
        (if isEscaping then [] else "'$'".toList) ++ escape byte ++ inside true rest
      else
        (if isEscaping then "''".toList else []) ++
          (if c = '\'' then "'\\''".toList else [c]) ++ inside false rest

/-- A word as a shell reads it, in quotes if it needs them or holds one of some characters. -/
def shellQuote (others : List Char) (word : String) : String :=
  let bytes := Text.Utf8.encode word
  let isVisible := bytes.all isVisible
  let letters := word.toList
  let isAlone := letters.length = 1
  let isPlain := isVisible && !letters.isEmpty && !isSpecial true isAlone (letters.headD ' ') &&
    !(letters.drop 1).any (isSpecial false false) && !letters.any others.contains
  if isPlain then word
  else if letters.contains '\'' && isVisible && isSame true (letters.headD ' ') &&
      (letters.drop 1).all (isSame false) then
    "\"" ++ word ++ "\""
  else String.ofList ('\'' :: inside false bytes ++ ['\''])

end Quoting

end Rehearsal

end Toolbench
