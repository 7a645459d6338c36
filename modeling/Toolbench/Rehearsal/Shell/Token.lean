import Toolbench.Rehearsal.Shell.Syntax

/-!
# Tokens of shell scripts

Scripts are cut into words and operators.  What stands in quotes, in braces behind a
dollar sign or in parentheses belongs to the word around it.
-/

namespace Toolbench

namespace Rehearsal

namespace Shell

inductive Token where
  /-- A word, and its text if no part of it is quoted or expanded. -/
  | word (word : Word) (plain : Option String)
  | operator (text : String)
  | newline
  /-- A text in the script that a stream is to read. -/
  | document (stream : Nat) (text : Word)
  /-- A stream in front of an operator. -/
  | stream (number : Nat)
  /-- From here on the script makes no sense. -/
  | fault (complaint : String)
deriving DecidableEq

inductive Mode where
  | bare
  | double
  /-- Text that a stream is to read, or an arithmetic expression. -/
  | document
  /-- A word inside of braces. -/
  | operand
  /-- A word inside of braces in double quotes, in which more quotes mean nothing. -/
  | inner
deriving DecidableEq

def isNameStart (c : Char) : Bool :=
  c.isAlpha || c = '_'

def isNameChar (c : Char) : Bool :=
  c.isAlphanum || c = '_'

def isName (text : String) : Bool :=
  text.toList.head?.any isNameStart && text.toList.all isNameChar

def endsWord (c : Char) : Bool :=
  " \t\n;&|<>()".toList.contains c

/-- The characters that name parameters which no script sets. -/
def isSpecialName (c : Char) : Bool :=
  "@*#?-$!".toList.contains c

/-- How deep in brackets a text is, and in which quotes. -/
structure Depth where
  open_ : Nat := 0
  quote : Option Char := none
  isEscaped : Bool := false

def Depth.step (opening closing : Char) (depth : Depth) (c : Char) : Depth :=
  if depth.isEscaped then { depth with isEscaped := false }
  else if c = '\\' && depth.quote ≠ some '\'' then { depth with isEscaped := true }
  else
    match depth.quote with
    | some quote => if c = quote then { depth with quote := none } else depth
    | none =>
        if c = '\'' || c = '"' then { depth with quote := some c }
        else if c = opening then { depth with open_ := depth.open_ + 1 }
        else if c = closing then { depth with open_ := depth.open_ - 1 }
        else depth

/-- The text up to the bracket that closes it, and the text behind that one. -/
def enclosed (complaint : String) (opening closing : Char) (depth : Depth) :
    List Char → Except String (List Char × List Char)
  | [] => .error (if depth.quote.isSome then "Unterminated quoted string" else complaint)
  | c :: rest =>
      if c = closing && depth.open_ = 0 && depth.quote.isNone && !depth.isEscaped then
        .ok ([], rest)
      else
        (enclosed complaint opening closing (depth.step opening closing c) rest).map
          fun (text, behind) => (c :: text, behind)

/-- The text up to the next backquote, without the backslashes that keep quotes. -/
def backquoted (quoted : Bool) : List Char → Option (List Char × List Char)
  | [] => none
  | '\x60' :: rest => some ([], rest)
  | '\\' :: c :: rest =>
      (backquoted quoted rest).map fun (text, behind) =>
        if "$\x60\\".toList.contains c || (quoted && c = '"') then (c :: text, behind)
        else ('\\' :: c :: text, behind)
  | c :: rest => (backquoted quoted rest).map fun (text, behind) => (c :: text, behind)

/-- The use that is made of a parameter, by what is behind its name in braces. -/
def useOf (text : List Char) : Use × List Char :=
  match text with
  | [] => (.value, [])
  | '%' :: '%' :: rest => (.trim true true, rest)
  | '%' :: rest => (.trim true false, rest)
  | '#' :: '#' :: rest => (.trim false true, rest)
  | '#' :: rest => (.trim false false, rest)
  | ':' :: action :: rest =>
      if "-=?+".toList.contains action then (.otherwise action true, rest) else (.unknown, [])
  | action :: rest =>
      if "-=?+".toList.contains action then (.otherwise action false, rest) else (.unknown, [])

def splitName (text : List Char) : List Char × List Char :=
  match text with
  | c :: rest =>
      if isNameStart c then (text.takeWhile isNameChar, text.dropWhile isNameChar)
      else if c.isDigit then (text.takeWhile Char.isDigit, text.dropWhile Char.isDigit)
      else if isSpecialName c then ([c], rest)
      else ([], text)
  | [] => ([], [])

def braced (quoted : Bool) (text : List Char) : Part :=
  let named := fun (text : List Char) =>
    let (name, behind) := splitName text
    let (use, operand) := if name.isEmpty then (.unknown, []) else useOf behind
    Part.parameter (String.ofList name) use operand quoted
  match text with
  | '#' :: rest =>
      let (name, behind) := splitName rest
      if name.isEmpty || !behind.isEmpty then named text
      else .parameter (String.ofList name) .length [] quoted
  | _ => named text

def dollarPart (quoted : Bool) (text : List Char) : Except String (Part × List Char) :=
  match text with
  | '{' :: rest =>
      (enclosed "Missing '\x7d'" '{' '}' {} rest).map fun (inside, behind) =>
        (braced quoted inside, behind)
  | '(' :: '(' :: rest =>
      match enclosed "" '(' ')' {} rest with
      | .ok (expression, ')' :: behind) => .ok (.sum expression quoted, behind)
      | _ => .error "Missing '))'"
  | '(' :: rest =>
      (enclosed "end of file unexpected (expecting \")\")" '(' ')' {} rest).map
        fun (inside, behind) => (.output inside quoted, behind)
  | c :: rest =>
      if isNameStart c then
        .ok (.parameter (String.ofList (text.takeWhile isNameChar)) .value [] quoted,
          text.dropWhile isNameChar)
      else if c.isDigit || isSpecialName c then
        .ok (.parameter (String.singleton c) .value [] quoted, rest)
      else .ok (.text ['$'] quoted, text)
  | [] => .ok (.text ['$'] quoted, [])

/-- The characters that a backslash in double quotes keeps as they are. -/
def isKept (mode : Mode) (c : Char) : Bool :=
  "$\x60\\".toList.contains c || (mode ≠ .document && c = '"') || (mode = .inner && c = '}')

/--
The parts of a word, up to the character that ends it, and the rest.  `back` is the
mode to go on with behind double quotes.
-/
def parts (back : Mode) : Nat → Mode → List Char → Except String (Word × List Char)
  | 0, _, rest => .ok ([], rest)
  | _ + 1, .double, [] => .error "Unterminated quoted string"
  | _ + 1, _, [] => .ok ([], [])
  | fuel + 1, mode, c :: rest => do
      let quoted := mode = .double || mode = .document || mode = .inner
      let add := fun (part : Part) (mode : Mode) (rest : List Char) => do
        let (others, behind) ← parts back fuel mode rest
        .ok (part :: others, behind)
      if mode = .bare && endsWord c then .ok ([], c :: rest)
      else if c = '\\' then
        match rest with
        | [] => add (.text ['\\'] true) mode []
        | '\n' :: rest => parts back fuel mode rest
        | next :: rest =>
            if quoted && !isKept mode next then add (.text ['\\', next] true) mode rest
            else add (.text [next] true) mode rest
      else if c = '"' && mode = .double then parts back fuel back rest
      else if c = '"' && mode = .inner then parts back fuel mode rest
      else if c = '"' && !quoted then add (.text [] true) .double rest
      else if c = '\'' && !quoted then
        if rest.contains '\'' then
          add (.text (rest.takeWhile (· ≠ '\'')) true) mode
            ((rest.dropWhile (· ≠ '\'')).drop 1)
        else .error "Unterminated quoted string"
      else if c = '$' then
        let (part, behind) ← dollarPart quoted rest
        add part mode behind
      else if c = '\x60' then
        match backquoted quoted rest with
        | some (script, behind) => add (.output script quoted) mode behind
        | none => .error "EOF in backquote substitution"
      else add (.text [c] quoted) mode rest

def wordOf (mode : Mode) (text : List Char) : Except String Word :=
  (parts mode (text.length + 1) mode text).map (·.1)

/-- The text of a word, if no part of it is quoted or expanded. -/
def plainText (word : Word) : Option String :=
  let text? : Part → Option (List Char)
    | .text text false => some text
    | _ => none
  (word.mapM text?).map fun texts => String.ofList texts.flatten

/-- The text of a word as it is compared with the lines of a document. -/
def bareText (word : Word) : List Char :=
  word.flatMap fun part =>
    match part with
    | .text text _ => text
    | _ => []

def documentLines (tabs : Bool) (ending : List Char) : Nat → List Char → List Char × List Char
  | 0, rest => ([], rest)
  | _ + 1, [] => ([], [])
  | fuel + 1, text =>
      let line := text.takeWhile (· ≠ '\n')
      let line := if tabs then line.dropWhile (· = '\t') else line
      let rest := (text.dropWhile (· ≠ '\n')).drop 1
      if line = ending then ([], rest)
      else
        let (lines, behind) := documentLines tabs ending fuel rest
        (line ++ '\n' :: lines, behind)

/-- The operators, longer ones before those that they start with. -/
def operators : List String :=
  ["<<-", "&&", "||", ";;", "<<", ">>", "<&", ">&", ">|", ";", "&", "|", "(", ")", "<", ">"]

def operator? (text : List Char) : Option String :=
  operators.find? fun operator => operator.toList.isPrefixOf text

def tokensFrom : Nat → Nat → List Char → List (Nat × Token)
  | 0, _, _ => []
  | _ + 1, _, [] => []
  | fuel + 1, line, c :: rest =>
      if c = ' ' || c = '\t' then tokensFrom fuel line rest
      else if c = '\n' then (line, .newline) :: tokensFrom fuel (line + 1) rest
      else if c = '#' then tokensFrom fuel line (rest.dropWhile (· ≠ '\n'))
      else if c = '\\' && rest.head? = some '\n' then tokensFrom fuel (line + 1) (rest.drop 1)
      else
        match operator? (c :: rest) with
        | some operator =>
            let behind := (c :: rest).drop operator.length
            if operator = "<<" || operator = "<<-" then
              match parts .bare fuel .bare (behind.dropWhile fun c => c = ' ' || c = '\t') with
              | .error complaint => [(line, .fault complaint)]
              | .ok ([], behind) => (line, .operator operator) :: tokensFrom fuel line behind
              | .ok (word, behind) =>
                  let (text, after) := documentLines (operator = "<<-") (bareText word) fuel
                    ((behind.dropWhile (· ≠ '\n')).drop 1)
                  let body :=
                    if (plainText word).isSome then wordOf .document text
                    else .ok [.text text true]
                  match body with
                  | .error complaint => [(line, .fault complaint)]
                  | .ok body =>
                      (line, .document 0 body) ::
                        tokensFrom fuel line (behind.takeWhile (· ≠ '\n') ++ '\n' :: after)
            else (line, .operator operator) :: tokensFrom fuel line behind
        | none =>
            match parts .bare fuel .bare (c :: rest) with
            | .error complaint => [(line, .fault complaint)]
            | .ok (word, behind) =>
                let taken := (c :: rest).take (rest.length + 1 - behind.length)
                let next := line + taken.count '\n'
                let isStream := taken.length = 1 && c.isDigit &&
                  (behind.head? = some '<' || behind.head? = some '>')
                let token :=
                  if isStream then .stream (c.toNat - 0x30) else .word word (plainText word)
                (line, token) :: tokensFrom fuel next behind

def tokens (script : List Char) : List (Nat × Token) :=
  tokensFrom (2 * script.length + 2) 1 script

end Shell

end Rehearsal

end Toolbench
