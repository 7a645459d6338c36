import Toolbench.Text.Blank

/-!
# Command lines

Splitting a command line into words: blanks separate, single and double quotes
group, and nothing is escaped or expanded.
-/

namespace Toolbench

namespace CommandLine

structure OpenQuote where
  quote : Char
  command : String
deriving DecidableEq

def OpenQuote.message (error : OpenQuote) : String :=
  "unterminated " ++ String.singleton error.quote ++ " quote in command '" ++ error.command ++ "'"

/-- The two characters that group. -/
def isQuote (c : Char) : Bool :=
  c = '\'' || c = '"'

def close (word : Option (List Char)) (words : List (List Char)) : List (List Char) :=
  match word with
  | some word => word :: words
  | none => words

/--
The words of a text, given the quote and the word that are open before it; fails
with the quote that is open at its end.
-/
def splitFrom (quote : Option Char) (word : Option (List Char)) :
    List Char → Except Char (List (List Char))
  | [] =>
      match quote with
      | some q => .error q
      | none => .ok (close word [])
  | c :: rest =>
      match quote with
      | some q =>
          if c = q then splitFrom none word rest
          else splitFrom quote (some (word.getD [] ++ [c])) rest
      | none =>
          if isQuote c then splitFrom (some c) (some (word.getD [])) rest
          else if Text.isBlank c then
            (splitFrom none none rest).map (close word)
          else splitFrom none (some (word.getD [] ++ [c])) rest

def split (command : String) : Except OpenQuote (List String) :=
  match splitFrom none none command.toList with
  | .ok words => .ok (words.map String.ofList)
  | .error quote => .error ⟨quote, command⟩

end CommandLine

end Toolbench
