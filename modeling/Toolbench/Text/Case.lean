import Toolbench.Text.CaseTable

/-!
# Upper and lower case

Full case mapping of texts: one character may become several, and a capital
sigma is written in its final form at the end of a word.
-/

namespace Toolbench

namespace Text

def inRanges (ranges : List (Nat × Nat)) (code : Nat) : Bool :=
  ranges.any fun range => range.1 ≤ code && code ≤ range.2

/-- The image of a code point under the first run that maps it, else itself. -/
def mapRuns (runs : List CaseRun) (code : Nat) : Nat :=
  (runs.findSome? fun run => run.map? code).getD code

/-- The lower case form of one character, out of context. -/
def lowerChar (c : Char) : List Char :=
  if c.toNat < 0x80 then [c.toLower]
  else if c.toNat == 0x130 then ['i', Char.ofNat 0x307]
  else [Char.ofNat (mapRuns lowerRuns c.toNat)]

def upperChar (c : Char) : List Char :=
  if c.toNat < 0x80 then [c.toUpper]
  else
    match upperExpansions.lookup c.toNat with
    | some codes => codes.map Char.ofNat
    | none => [Char.ofNat (mapRuns upperRuns c.toNat)]

/-- Characters that a word's case context looks through. -/
def isCaseIgnorable (c : Char) : Bool :=
  inRanges caseIgnorableRanges c.toNat

def isCased (c : Char) : Bool :=
  c.isAlpha || inRanges casedRanges c.toNat

/-- Whether the first character that is not looked through is a letter with case. -/
def startsCased (context : List Char) : Bool :=
  match context.dropWhile isCaseIgnorable with
  | [] => false
  | c :: _ => isCased c

/--
Lower case of a text, with the characters before it nearest first.  A capital
sigma after a letter and before none takes its final form.
-/
def lowerChars (before : List Char) : List Char → List Char
  | [] => []
  | c :: rest =>
      let image :=
        if c.toNat == 0x3A3 then
          if startsCased before && !startsCased rest then [Char.ofNat 0x3C2]
          else [Char.ofNat 0x3C3]
        else lowerChar c
      image ++ lowerChars (c :: before) rest

def lower (text : String) : String :=
  String.ofList (lowerChars [] text.toList)

def upper (text : String) : String :=
  String.ofList (text.toList.flatMap upperChar)

end Text

end Toolbench
