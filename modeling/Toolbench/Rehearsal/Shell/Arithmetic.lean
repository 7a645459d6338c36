import Toolbench.Rehearsal.Number
import Toolbench.Rehearsal.Shell.Token

/-!
# Arithmetic of shells

Expressions over 64-bit integers and bindings.  Operators bind as in most languages;
an assignment is an expression too.
-/

namespace Toolbench

namespace Rehearsal

namespace Shell

abbrev Variables := List (String × String)

def Variables.set (bindings : Variables) (name value : String) : Variables :=
  if (bindings.lookup name).isSome then
    bindings.map fun pair => if pair.1 = name then (name, value) else pair
  else bindings ++ [(name, value)]

inductive Term where
  | number (value : Int)
  | name (name : String)
  | operator (text : String)
deriving DecidableEq

/-- The operators of expressions, longer ones before those that they start with. -/
def termOperators : List String :=
  ["<<=", ">>=", "<<", ">>", "<=", ">=", "==", "!=", "&&", "||", "+=", "-=", "*=", "/=", "%=",
    "&=", "^=", "|=", "+", "-", "*", "/", "%", "<", ">", "&", "^", "|", "!", "~", "?", ":", "(",
    ")", "="]

/-- The tokens of an expression; a character that starts none is an operator of no use. -/
def terms : Nat → List Char → List Term
  | 0, _ | _, [] => []
  | fuel + 1, c :: rest =>
      if isSpace c then terms fuel rest
      else if c.isDigit then
        let read := readInteger (c :: rest)
        .number (min 0x7FFFFFFFFFFFFFFF read.value) :: terms fuel read.rest
      else if isNameStart c then
        .name (String.ofList ((c :: rest).takeWhile isNameChar)) ::
          terms fuel ((c :: rest).dropWhile isNameChar)
      else
        match termOperators.find? fun operator => operator.toList.isPrefixOf (c :: rest) with
        | some operator => .operator operator :: terms fuel ((c :: rest).drop operator.length)
        | none => .operator (String.singleton c) :: terms fuel rest

inductive SumFault where
  /-- It is no expression; the complaint says what is wanted. -/
  | malformed (wanted : String)
  | divisionByZero
  | badNumber (text : String)

abbrev Sum := Except SumFault (Int × List Term × Variables)

def wrap (value : Int) : Int :=
  Int.bmod value 0x10000000000000000

def valueOf (bindings : Variables) (name : String) : Except SumFault Int :=
  let text := ((bindings.lookup name).getD "").toList
  let read := readInteger text
  if text.all isSpace then .ok 0
  else if read.found && read.rest.all isSpace then .ok (wrap read.value)
  else .error (.badNumber (String.ofList text))

/-- The binary operators, from those that bind least. -/
def binaryLevels : List (List String) :=
  [["||"], ["&&"], ["|"], ["^"], ["&"], ["==", "!="], ["<", ">", "<=", ">="], ["<<", ">>"],
    ["+", "-"], ["*", "/", "%"]]

def applyBinary (operator : String) (a b : Int) : Except SumFault Int :=
  let truth := fun value : Bool => if value then 1 else 0
  let bits := fun operation : BitVec 64 → BitVec 64 → BitVec 64 =>
    (operation (BitVec.ofInt 64 a) (BitVec.ofInt 64 b)).toInt
  match operator with
  | "||" => .ok (truth (a ≠ 0 || b ≠ 0))
  | "&&" => .ok (truth (a ≠ 0 && b ≠ 0))
  | "|" => .ok (bits (· ||| ·))
  | "^" => .ok (bits (· ^^^ ·))
  | "&" => .ok (bits (· &&& ·))
  | "==" => .ok (truth (a = b))
  | "!=" => .ok (truth (a ≠ b))
  | "<" => .ok (truth (a < b))
  | ">" => .ok (truth (a > b))
  | "<=" => .ok (truth (a ≤ b))
  | ">=" => .ok (truth (a ≥ b))
  | "<<" => .ok (wrap (a * Int.pow 2 (b % 64).toNat))
  | ">>" => .ok (a.fdiv (Int.pow 2 (b % 64).toNat))
  | "+" => .ok (wrap (a + b))
  | "-" => .ok (wrap (a - b))
  | "*" => .ok (wrap (a * b))
  | "/" => if b = 0 then .error .divisionByZero else .ok (wrap (a.tdiv b))
  | "%" => if b = 0 then .error .divisionByZero else .ok (wrap (a.tmod b))
  | _ => .error (.malformed "primary")

/-- The operators that assign, and what they do with the value before. -/
def assigning : List (String × Option String) :=
  [("=", none), ("+=", some "+"), ("-=", some "-"), ("*=", some "*"), ("/=", some "/"),
    ("%=", some "%"), ("<<=", some "<<"), (">>=", some ">>"), ("&=", some "&"), ("^=", some "^"),
    ("|=", some "|")]

mutual

def assignmentSum : Nat → List Term → Variables → Sum
  | 0, _, _ => .error (.malformed "primary")
  | fuel + 1, terms, bindings =>
      match terms with
      | .name name :: .operator operator :: rest =>
          match assigning.lookup operator with
          | some before => do
              let (value, rest, bindings) ← assignmentSum fuel rest bindings
              let value ← match before with
                | some before => applyBinary before (← valueOf bindings name) value
                | none => .ok value
              .ok (value, rest, bindings.set name (toString value))
          | none => choiceSum fuel terms bindings
      | _ => choiceSum fuel terms bindings

/-- One of two values by a condition; the other one changes no variable. -/
def choiceSum : Nat → List Term → Variables → Sum
  | 0, _, _ => .error (.malformed "primary")
  | fuel + 1, terms, bindings => do
      let (value, rest, bindings) ← binarySum fuel binaryLevels terms bindings
      match rest with
      | .operator "?" :: rest =>
          let (first, rest, changed) ← assignmentSum fuel rest bindings
          match rest with
          | .operator ":" :: rest =>
              let (second, rest, otherwise) ← choiceSum fuel rest bindings
              if value ≠ 0 then .ok (first, rest, changed) else .ok (second, rest, otherwise)
          | _ => .error (.malformed "':'")
      | _ => .ok (value, rest, bindings)

def binarySum : Nat → List (List String) → List Term → Variables → Sum
  | 0, _, _, _ => .error (.malformed "primary")
  | fuel + 1, levels, terms, bindings => do
      match levels with
      | [] => unarySum fuel terms bindings
      | level :: deeper =>
          let (value, rest, bindings) ← binarySum fuel deeper terms bindings
          binaryRest fuel level deeper value rest bindings

def binaryRest : Nat → List String → List (List String) → Int → List Term → Variables → Sum
  | 0, _, _, _, _, _ => .error (.malformed "primary")
  | fuel + 1, level, deeper, value, terms, bindings => do
      match terms with
      | .operator operator :: rest =>
          if level.contains operator then
            let (second, rest, after) ← binarySum fuel deeper rest bindings
            let isDecided := (operator = "&&" && value = 0) || (operator = "||" && value ≠ 0)
            let value ← applyBinary operator value second
            binaryRest fuel level deeper value rest (if isDecided then bindings else after)
          else .ok (value, terms, bindings)
      | _ => .ok (value, terms, bindings)

def unarySum : Nat → List Term → Variables → Sum
  | 0, _, _ => .error (.malformed "primary")
  | fuel + 1, terms, bindings => do
      match terms with
      | .number value :: rest => .ok (wrap value, rest, bindings)
      | .name name :: rest => .ok (← valueOf bindings name, rest, bindings)
      | .operator "(" :: rest =>
          let (value, rest, bindings) ← assignmentSum fuel rest bindings
          match rest with
          | .operator ")" :: rest => .ok (value, rest, bindings)
          | _ => .error (.malformed "')'")
      | .operator operator :: rest =>
          if ["+", "-", "!", "~"].contains operator then
            let (value, rest, bindings) ← unarySum fuel rest bindings
            let value :=
              if operator = "-" then wrap (-value)
              else if operator = "!" then if value = 0 then 1 else 0
              else if operator = "~" then -value - 1
              else value
            .ok (value, rest, bindings)
          else .error (.malformed "primary")
      | [] => .error (.malformed "primary")

end

/-- The value of an expression; an empty one is zero. -/
def evaluateSum (text : List Char) (bindings : Variables) : Except SumFault (Int × Variables) :=
  match terms (text.length + 1) text with
  | [] => .ok (0, bindings)
  | terms => do
      let (value, rest, bindings) ← assignmentSum (14 * terms.length + 14) terms bindings
      if rest.isEmpty then .ok (value, bindings) else .error (.malformed "EOF")

end Shell

end Rehearsal

end Toolbench
