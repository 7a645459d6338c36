/-!
# Patterns

Texts in which an asterisk stands for any text, a question mark for any character, and
brackets for one of several characters.
-/

namespace Toolbench

namespace Rehearsal

namespace Shell

inductive Piece where
  | char (c : Char)
  | any
  | many
  /-- A character of some ranges or classes, or of none of them. -/
  | range (isNot : Bool) (ranges : List (Char × Char)) (classes : List String)
deriving DecidableEq

def classes : List (String × (Char → Bool)) :=
  [("alnum", Char.isAlphanum), ("alpha", Char.isAlpha), ("blank", fun c => c = ' ' || c = '\t'),
    ("cntrl", fun c => c.toNat < 0x20 || c.toNat = 0x7F), ("digit", Char.isDigit),
    ("graph", fun c => 0x21 ≤ c.toNat && c.toNat < 0x7F), ("lower", Char.isLower),
    ("print", fun c => 0x20 ≤ c.toNat && c.toNat < 0x7F),
    ("punct", fun c => 0x21 ≤ c.toNat && c.toNat < 0x7F && !c.isAlphanum),
    ("space", fun c => c = ' ' || (9 ≤ c.toNat && c.toNat ≤ 13)), ("upper", Char.isUpper),
    ("xdigit", fun c => c.isDigit || ('a' ≤ c && c ≤ 'f') || ('A' ≤ c && c ≤ 'F'))]

def takeClasses : Nat → List (Char × Bool) → List String × List (Char × Bool)
  | 0, text => ([], text)
  | fuel + 1, text =>
      let letters := text.map (·.1)
      match classes.find? fun entry => ("[:" ++ entry.1 ++ ":]").toList.isPrefixOf letters with
      | some (name, _) =>
          let (others, rest) := takeClasses fuel (text.drop (name.length + 4))
          (name :: others, rest)
      | none => ([], text)

def rangesOf : List (Char × Bool) → List (Char × Char)
  | (first, _) :: ('-', false) :: (last, _) :: rest => (first, last) :: rangesOf rest
  | (c, _) :: rest => (c, c) :: rangesOf rest
  | [] => []

def brackets (text : List (Char × Bool)) : Option (Piece × List (Char × Bool)) :=
  let (isNot, text) := match text with
    | ('!', false) :: rest => (true, rest)
    | _ => (false, text)
  let (found, text) := takeClasses text.length text
  let (leading, text) := match text with
    | (']', false) :: rest => if found.isEmpty then ([(']', true)], rest) else ([], text)
    | _ => ([], text)
  let inside := text.takeWhile (· ≠ (']', false))
  match text.drop inside.length with
  | _ :: rest => some (.range isNot (rangesOf (leading ++ inside)) found, rest)
  | [] => none

/-- The pieces of a pattern, whose characters are marked where they are quoted. -/
def piecesOf : Nat → List (Char × Bool) → List Piece
  | 0, _ | _, [] => []
  | fuel + 1, (c, quoted) :: rest =>
      if quoted then .char c :: piecesOf fuel rest
      else if c = '*' then .many :: piecesOf fuel rest
      else if c = '?' then .any :: piecesOf fuel rest
      else if c = '[' then
        match brackets rest with
        | some (piece, rest) => piece :: piecesOf fuel rest
        | none => .char c :: piecesOf fuel rest
      else .char c :: piecesOf fuel rest

def Piece.holds (piece : Piece) (c : Char) : Bool :=
  match piece with
  | .char d => c = d
  | .any | .many => true
  | .range isNot ranges found =>
      (ranges.any (fun (first, last) => first ≤ c && c ≤ last) ||
        found.any fun name => (classes.lookup name).any fun isIn => isIn c) != isNot

def fits : List Piece → List Char → Bool
  | [], text => text.isEmpty
  | .many :: pieces, [] => fits pieces []
  | .many :: pieces, c :: text => fits pieces (c :: text) || fits (.many :: pieces) text
  | _ :: _, [] => false
  | piece :: pieces, c :: text => piece.holds c && fits pieces text
termination_by pieces text => pieces.length + text.length

def matchesPattern (pattern : List (Char × Bool)) (text : List Char) : Bool :=
  fits (piecesOf pattern.length pattern) text

/-- A text without what a pattern stands for at one of its ends. -/
def trimPattern (pattern : List (Char × Bool)) (atEnd longest : Bool) (text : List Char) :
    List Char :=
  let lengths := List.range (text.length + 1)
  let isCut := fun count =>
    if atEnd then matchesPattern pattern (text.drop (text.length - count))
    else matchesPattern pattern (text.take count)
  match (if longest then lengths.reverse else lengths).find? isCut with
  | some count => if atEnd then text.take (text.length - count) else text.drop count
  | none => text

end Shell

end Rehearsal

end Toolbench
