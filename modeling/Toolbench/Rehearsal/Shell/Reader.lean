import Toolbench.Rehearsal.Shell.Token

/-!
# Reading shell scripts

The commands that the tokens of a script spell.  A script is read line by line, so that
the lines before one that makes no sense are run.
-/

namespace Toolbench

namespace Rehearsal

namespace Shell

abbrev Tokens := List (Nat × Token)

structure Misreading where
  /-- The line, or none at the end of the script. -/
  line : Option Nat
  complaint : String

/-- What is read, unless the script makes no sense. -/
abbrev Reading := Except Misreading

/-- The words that have a meaning of their own where a command starts. -/
def reserved : List String :=
  ["if", "then", "else", "elif", "fi", "do", "done", "case", "esac", "while", "until", "for",
    "in", "\x7b", "\x7d", "!"]

def mark? : Tokens → Option String
  | (_, .word _ (some text)) :: _ => if reserved.contains text then some text else none
  | (_, .operator text) :: _ => some text
  | _ => none

def redirectors : List String :=
  ["<", ">", ">>", "<&", ">&", ">|", "<<", "<<-"]

def unexpected (expected : Option String) (tokens : Tokens) : Misreading :=
  let expecting := match expected with
    | some "word" => " (expecting word)"
    | some text => " (expecting \"" ++ text ++ "\")"
    | none => ""
  let about := fun (line : Option Nat) (text : String) =>
    { line, complaint := text ++ " unexpected" ++ expecting : Misreading }
  match tokens with
  | [] => about none "end of file"
  | (line, token) :: _ =>
      match token, mark? tokens with
      | .fault complaint, _ => { line, complaint }
      | .newline, _ => about line "newline"
      | .document .., _ | .stream _, _ => about line "redirection"
      | _, some text =>
          if redirectors.contains text then about line "redirection"
          else about line ("\"" ++ text ++ "\"")
      | _, none => about line "word"

def refuse {α : Type} (expected : Option String) (tokens : Tokens) : Reading α :=
  .error (unexpected expected tokens)

def skipNewlines : Tokens → Tokens
  | (_, .newline) :: rest => skipNewlines rest
  | tokens => tokens

def expect (mark : String) (tokens : Tokens) : Reading Tokens :=
  if mark? tokens = some mark then .ok tokens.tail
  else .error (unexpected (some mark) tokens)

/-- The redirection at the start, for the given stream or the usual one. -/
def redirection? (stream : Option Nat) (tokens : Tokens) :
    Reading (Option (Redirection × Tokens)) :=
  match tokens with
  | (_, .document usual text) :: rest => .ok (some (.document (stream.getD usual) text, rest))
  | (_, .operator operator) :: rest =>
      let named := fun (make : Word → Redirection) =>
        match rest with
        | (_, .word word _) :: behind => .ok (some (make word, behind))
        | _ => .error (unexpected none rest)
      match operator with
      | "<" => named (.file (stream.getD 0) .read)
      | ">" | ">|" => named (.file (stream.getD 1) .write)
      | ">>" => named (.file (stream.getD 1) .append)
      | "<<" | "<<-" => .error (unexpected none rest)
      | "<&" => named (.copy (stream.getD 0))
      | ">&" => named (.copy (stream.getD 1))
      | _ => .ok none
  | _ => .ok none

def redirections : Nat → Tokens → Reading (List Redirection × Tokens)
  | 0, tokens => .ok ([], tokens)
  | fuel + 1, tokens => do
      let found ← match tokens with
        | (_, .stream number) :: rest => redirection? (some number) rest
        | _ => redirection? none tokens
      match found with
      | none => .ok ([], tokens)
      | some (first, rest) =>
          let (others, rest) ← redirections fuel rest
          .ok (first :: others, rest)

def assignment? (word : Word) : Option Assignment :=
  let letters := word.takeWhile fun part =>
    match part with
    | .text [c] false => c ≠ '='
    | _ => false
  let name := bareText letters
  match word.drop letters.length with
  | .text ['='] false :: value =>
      if name.head?.any isNameStart && name.all isNameChar then some (String.ofList name, value)
      else none
  | _ => none

/-- The rest of a simple command: assignments as long as there are no words, words, redirections. -/
def simpleRest (line : Nat) : Nat → List Assignment → List Word → List Redirection → Tokens →
    Reading (Command × Tokens)
  | 0, assignments, words, found, tokens =>
      .ok (.simple line assignments.reverse words.reverse found, tokens)
  | fuel + 1, assignments, words, found, tokens => do
      match tokens with
      | (_, .word word _) :: rest =>
          match words, assignment? word with
          | [], some assignment => simpleRest line fuel (assignment :: assignments) [] found rest
          | _, _ => simpleRest line fuel assignments (word :: words) found rest
      | _ =>
          let (more, rest) ← redirections (fuel + 1) tokens
          if more.isEmpty then .ok (.simple line assignments.reverse words.reverse found, tokens)
          else simpleRest line fuel assignments words (found ++ more) rest

def Command.with (command : Command) (found : List Redirection) : Command :=
  if found.isEmpty then command else .redirected command found

def Command.upTo (command : Command) (mark : Token) : Command :=
  if mark = .operator "&" then .background command else command

def isSeparator (token : Token) : Bool :=
  token = .operator ";" || token = .operator "&"

def wordsUntilEnd : Tokens → List Word × Tokens
  | (_, .word word _) :: rest =>
      let (words, behind) := wordsUntilEnd rest
      (word :: words, behind)
  | tokens => ([], tokens)

/-- The patterns of an arm, up to the parenthesis behind them. -/
def patterns : Nat → Tokens → Reading (List Word × Tokens)
  | 0, tokens => refuse none tokens
  | fuel + 1, tokens =>
      let (found, rest) := match tokens with
        | (_, .word word _) :: rest => (word, rest)
        | tokens => ([], tokens.tail)
      if mark? rest = some "|" then do
        let (others, rest) ← patterns fuel rest.tail
        .ok (found :: others, rest)
      else do .ok ([found], ← expect ")" rest)

/-- The parenthesis behind the opening one of a function; all words are plain ones there. -/
def expectEmpty (tokens : Tokens) : Reading Tokens :=
  match tokens with
  | (line, .word ..) :: _ =>
      .error { line, complaint := "word unexpected (expecting \")\")" }
  | _ => expect ")" tokens

def takenNames : List String :=
  ["break", "continue", "eval", "exec", "exit", "export", "local", "readonly", "return", "set",
    "shift", "times", "trap", "unset"]

def isFunctionName (name : String) : Bool :=
  isName name && !takenNames.contains name

def closing : List String :=
  ["then", "else", "elif", "fi", "do", "done", "esac", "\x7d", ")", ";;"]

mutual

/-- Commands up to a mark that none can start with. -/
def commands : Nat → Tokens → Reading (Command × Tokens)
  | 0, tokens => refuse none tokens
  | fuel + 1, tokens => do
      let tokens := skipNewlines tokens
      let isEnd := match mark? tokens with
        | some mark => closing.contains mark
        | none => tokens.isEmpty
      if isEnd then .ok (.nothing, tokens)
      else
        let (first, rest) ← chain fuel tokens
        match rest with
        | (_, mark) :: behind =>
            if isSeparator mark || mark = .newline then
              let (others, behind) ← commands fuel behind
              .ok (.sequence (first.upTo mark) others, behind)
            else .ok (first, rest)
        | [] => .ok (first, [])

/-- Commands that depend on whether others succeed. -/
def chain : Nat → Tokens → Reading (Command × Tokens)
  | 0, tokens => refuse none tokens
  | fuel + 1, tokens => do
      let (first, rest) ← pipeline fuel tokens
      links fuel first rest

def links : Nat → Command → Tokens → Reading (Command × Tokens)
  | 0, _, tokens => refuse none tokens
  | fuel + 1, first, tokens => do
      match tokens with
      | (_, .operator "&&") :: rest =>
          let (second, rest) ← pipeline fuel (skipNewlines rest)
          links fuel (.both first second) rest
      | (_, .operator "||") :: rest =>
          let (second, rest) ← pipeline fuel (skipNewlines rest)
          links fuel (.either first second) rest
      | _ => .ok (first, tokens)

def pipeline : Nat → Tokens → Reading (Command × Tokens)
  | 0, tokens => refuse none tokens
  | fuel + 1, tokens => do
      if mark? tokens = some "!" then
        let (first, rest) ← command fuel tokens.tail
        let (command, rest) ← pipes fuel first rest
        .ok (.negated command, rest)
      else
        let (first, rest) ← command fuel tokens
        pipes fuel first rest

def pipes : Nat → Command → Tokens → Reading (Command × Tokens)
  | 0, _, tokens => refuse none tokens
  | fuel + 1, first, tokens => do
      match tokens with
      | (_, .operator "|") :: rest =>
          let (second, rest) ← command fuel (skipNewlines rest)
          pipes fuel (.pipe first second) rest
      | _ => .ok (first, tokens)

/-- A command between two marks, of which the first is at the start. -/
def between (closing : String) : Nat → Tokens → Reading (Command × Tokens)
  | 0, tokens => refuse none tokens
  | fuel + 1, tokens => do
      let (body, rest) ← block fuel tokens
      .ok (body, ← expect closing rest)

/-- Commands up to a mark, of which there is one at least before the end of the script. -/
def block : Nat → Tokens → Reading (Command × Tokens)
  | 0, tokens => refuse none tokens
  | fuel + 1, tokens => do
      let (body, rest) ← commands fuel tokens
      match body, rest with
      | .nothing, _ :: _ => refuse none rest
      | _, _ => .ok (body, rest)

def branch : Nat → Tokens → Reading (Command × Tokens)
  | 0, tokens => refuse none tokens
  | fuel + 1, tokens => do
      let (condition, rest) ← between "then" fuel tokens
      let (consequence, rest) ← block fuel rest
      if mark? rest = some "elif" then
        let (alternative, rest) ← branch fuel rest.tail
        .ok (.branch condition consequence alternative, rest)
      else if mark? rest = some "else" then
        let (alternative, rest) ← between "fi" fuel rest.tail
        .ok (.branch condition consequence alternative, rest)
      else .ok (.branch condition consequence .nothing, ← expect "fi" rest)

def arms : Nat → Tokens → Reading (Command × Tokens)
  | 0, tokens => refuse none tokens
  | fuel + 1, tokens => do
      let tokens := skipNewlines tokens
      if mark? tokens = some "esac" then .ok (.nothing, tokens.tail)
      else
        let tokens := if mark? tokens = some "(" then tokens.tail else tokens
        let (found, rest) ← patterns (fuel + 1) tokens
        let (body, rest) ← commands fuel rest
        if mark? rest = some ";;" then
          let (others, rest) ← arms fuel rest.tail
          .ok (.arm found body others, rest)
        else if mark? rest = some "esac" then .ok (.arm found body .nothing, rest.tail)
        else refuse (some ";;") rest

def command : Nat → Tokens → Reading (Command × Tokens)
  | 0, tokens => refuse none tokens
  | fuel + 1, tokens => do
      let finish := fun (command : Command) (rest : Tokens) => do
        let (found, rest) ← redirections (fuel + 1) rest
        .ok (command.with found, rest)
      match mark? tokens, tokens with
      | some "(", _ =>
          let (body, rest) ← between ")" fuel tokens.tail
          finish (.apart body) rest
      | some "\x7b", _ =>
          let (body, rest) ← between "\x7d" fuel tokens.tail
          finish body rest
      | some "if", _ =>
          let (command, rest) ← branch fuel tokens.tail
          finish command rest
      | some "while", _ | some "until", _ =>
          let (condition, rest) ← between "do" fuel tokens.tail
          let (body, rest) ← between "done" fuel rest
          finish (.loop (mark? tokens = some "until") condition body) rest
      | some "for", _ :: (line, .word _ name?) :: rest =>
          let name := name?.getD ""
          if !isName name then
            .error { line, complaint := "Bad for loop variable" }
          let rest := skipNewlines rest
          let (words, rest) ← match rest with
            | (_, .word _ (some "in")) :: rest =>
                let (words, rest) := wordsUntilEnd rest
                match rest with
                | (_, .operator ";") :: rest | (_, .newline) :: rest => .ok (some words, rest)
                | _ => refuse none rest
            | (_, .operator ";") :: rest => .ok (none, rest)
            | _ => .ok (none, rest)
          let rest ← expect "do" (skipNewlines rest)
          let (body, rest) ← between "done" fuel rest
          finish (.each name words body) rest
      | some "for", _ :: rest =>
          .error { line := rest.head?.map (·.1), complaint := "Bad for loop variable" }
      | some "case", _ :: (_, .word subject _) :: rest =>
          let rest ← expect "in" (skipNewlines rest)
          let (found, rest) ← arms fuel rest
          finish (.choice subject found) rest
      | some "case", _ :: rest => refuse (some "word") rest
      | none, (line, .word word name?) :: (_, .operator "(") :: rest =>
          if (assignment? word).isSome then refuse none tokens.tail
          let rest ← expectEmpty rest
          let name := name?.getD ""
          if !isFunctionName name then .error { line, complaint := "Bad function name" }
          let (body, rest) ← command fuel (skipNewlines rest)
          .ok (.define name body, rest)
      | none, (line, .word ..) :: _ => simpleRest line (tokens.length + 1) [] [] [] tokens
      | some _, (line, .operator _) :: _ | none, (line, _) :: _ =>
          let (found, rest) ← redirections (tokens.length + 1) tokens
          if found.isEmpty then refuse none tokens
          else simpleRest line (tokens.length + 1) [] [] found rest
      | _, _ => refuse none tokens

end

/-- The first line of a script that holds commands, and the tokens behind it. -/
def firstLine (tokens : Tokens) : Reading (Option (Command × Tokens)) :=
  go (tokens.length + 1) (skipNewlines tokens)
where
  /-- Reads commands up to the end of the line. -/
  go : Nat → Tokens → Reading (Option (Command × Tokens))
    | 0, _ => .ok none
    | _ + 1, [] => .ok none
    | fuel + 1, tokens => do
        let (first, rest) ← chain (8 * tokens.length + 8) tokens
        match rest with
        | [] | (_, .newline) :: _ => .ok (some (first, rest.drop 1))
        | (_, mark) :: behind =>
            if !isSeparator mark then refuse none rest
            else
              let first := first.upTo mark
              match behind with
              | [] | (_, .newline) :: _ => .ok (some (first, behind.drop 1))
              | _ =>
                  match ← go fuel behind with
                  | some (others, behind) => .ok (some (.sequence first others, behind))
                  | none => .ok (some (first, []))

end Shell

end Rehearsal

end Toolbench
