import Toolbench.Decimal.Literal

/-!
# Conditions of shells

The words of a test: texts and integers that are compared, files that are asked about,
and words that join them.  A word that could be an operator is a text where no operator
makes sense.
-/

namespace Toolbench

namespace Rehearsal

namespace Shell

namespace Condition

inductive Kind where
  | unary
  | binary
  | negation
  | conjunction
  | disjunction
  | opening
  | closing
deriving DecidableEq

def kindOf? (word : String) : Option Kind :=
  if ["=", "!=", "<", ">", "-eq", "-ne", "-gt", "-ge", "-lt", "-le", "-nt", "-ot", "-ef"].contains
      word then some .binary
  else if word = "!" then some .negation
  else if word = "-a" then some .conjunction
  else if word = "-o" then some .disjunction
  else if word = "(" then some .opening
  else if word = ")" then some .closing
  else
    match word.toList with
    | ['-', c] => if "rwxefdcbpugkhLSsOGtzn".toList.contains c then some .unary else none
    | _ => none

/-- What the first of some words is, if it is no text. -/
def kind? : List String → Option Kind
  | [] => none
  | word :: rest =>
      match kindOf? word, rest with
      | some .unary, [] => none
      | some .unary, next :: _ :: _ =>
          if kindOf? next = some .binary then none else some .unary
      | some .opening, [] => none
      | kind, _ => kind

abbrev Result := Except String (Bool × List String)

def integer (word : String) : Except String Int :=
  let isBlank := fun c : Char => c = ' ' || c = '\t' || c = '\n'
  let text := ((word.toList.dropWhile isBlank).reverse.dropWhile isBlank).reverse
  let (isNegative, digits) := match text with
    | '-' :: rest => (true, rest)
    | '+' :: rest => (false, rest)
    | _ => (false, text)
  if digits.isEmpty || !digits.all Char.isDigit then .error ("Illegal number: " ++ word)
  else
    let size : Int := Floating.digitsValue digits
    .ok (if isNegative then -size else size)

def compare (operator first second : String) : Except String Bool :=
  match operator with
  | "=" => .ok (first = second)
  | "!=" => .ok (first ≠ second)
  | "<" => .ok (first < second)
  | ">" => .ok (second < first)
  | "-nt" | "-ot" | "-ef" => .ok false
  | _ => do
      let a ← integer first
      let b ← integer second
      .ok (match operator with
        | "-eq" => a = b
        | "-ne" => a ≠ b
        | "-gt" => a > b
        | "-ge" => a ≥ b
        | "-lt" => a < b
        | _ => a ≤ b)

abbrev FileTest := Char → String → Bool

def ask (isSo : FileTest) (operator word : String) : Except String Bool :=
  match operator with
  | "-z" => .ok word.isEmpty
  | "-n" => .ok (!word.isEmpty)
  | "-t" => (integer word).map fun _ => false
  | _ => .ok (isSo ((operator.toList.drop 1).headD 'e') word)

def comparison (first : String) (rest : List String) : Result :=
  match rest, kind? rest with
  | operator :: second :: rest, some .binary => do .ok (← compare operator first second, rest)
  | [operator], some .binary => .error (operator ++ ": argument expected")
  | _, _ => .ok (!first.isEmpty, rest)

mutual

/-- Parts of which one has to hold. -/
def disjunction (isSo : FileTest) : Nat → List String → Result
  | 0, words => .ok (false, words)
  | fuel + 1, words => do
      let (value, rest) ← conjunction isSo fuel words
      match kind? rest with
      | some .disjunction =>
          let (other, rest) ← disjunction isSo fuel rest.tail
          .ok (value || other, rest)
      | _ => .ok (value, rest)

/-- Parts that have to hold all. -/
def conjunction (isSo : FileTest) : Nat → List String → Result
  | 0, words => .ok (false, words)
  | fuel + 1, words => do
      let (value, rest) ← negation isSo fuel words
      match kind? rest with
      | some .conjunction =>
          let (other, rest) ← conjunction isSo fuel rest.tail
          .ok (value && other, rest)
      | _ => .ok (value, rest)

def negation (isSo : FileTest) : Nat → List String → Result
  | 0, words => .ok (false, words)
  | fuel + 1, words => do
      match kind? words with
      | some .negation =>
          let (value, rest) ← negation isSo fuel words.tail
          .ok (!value, rest)
      | _ => primary isSo fuel words

def primary (isSo : FileTest) : Nat → List String → Result
  | 0, words => .ok (false, words)
  | fuel + 1, words => do
      match words, kind? words with
      | [], _ => .ok (false, [])
      | _ :: rest, some .opening =>
          if kind? rest = some .closing then .ok (false, rest.tail)
          else
            let (value, rest) ← disjunction isSo fuel rest
            if kind? rest = some .closing then .ok (value, rest.tail)
            else .error "closing paren expected"
      | operator :: word :: rest, some .unary => do .ok (← ask isSo operator word, rest)
      | word :: rest, _ => comparison word rest

end

/-- The value of a condition, or the complaint that it is none. -/
def evaluate (isSo : FileTest) (words : List String) : Except String Bool := do
  let (value, rest) ←
    match words with
    | [first, operator, second] =>
        if kindOf? operator = some .binary then comparison first [operator, second]
        else disjunction isSo (4 * words.length + 4) words
    | _ => disjunction isSo (4 * words.length + 4) words
  if rest.isEmpty then .ok value
  else
    let last := (words.drop (words.length - rest.length - 1)).headD ""
    .error (last ++ ": unexpected operator")

end Condition

end Shell

end Rehearsal

end Toolbench
