/-!
# Shell scripts

What scripts are made of: words whose parts are expanded when they are used, and
commands that are run one after the other, in pipes, in loops and by conditions.
-/

namespace Toolbench

namespace Rehearsal

namespace Shell

inductive Use where
  | value
  | length
  /-- Another word where it is unset, or where it is empty too; the action says what for. -/
  | otherwise (action : Char) (alsoEmpty : Bool)
  /-- The value without what a pattern matches at one of its ends. -/
  | trim (atEnd longest : Bool)
  /-- Something that no parameter has. -/
  | unknown
deriving DecidableEq

/-- A part of a word.  What is in quotes is neither divided nor a pattern. -/
inductive Part where
  | text (text : List Char) (quoted : Bool)
  | parameter (name : String) (use : Use) (operand : List Char) (quoted : Bool)
  /-- The output of a script. -/
  | output (script : List Char) (quoted : Bool)
  /-- The value of an arithmetic expression. -/
  | sum (expression : List Char) (quoted : Bool)
deriving DecidableEq

abbrev Word := List Part

inductive Opening where
  | read
  | write
  | append
deriving DecidableEq

/-- What is done to a stream before a command is run. -/
inductive Redirection where
  | file (stream : Nat) (opening : Opening) (name : Word)
  /-- The stream becomes what another one is. -/
  | copy (stream : Nat) (source : Word)
  /-- The stream reads a text that stands in the script. -/
  | document (stream : Nat) (text : Word)
deriving DecidableEq

abbrev Assignment := String × Word

inductive Command where
  | nothing
  | simple (line : Nat) (assignments : List Assignment) (words : List Word)
      (redirections : List Redirection)
  | redirected (command : Command) (redirections : List Redirection)
  /-- A command that leaves the variables as they are. -/
  | apart (command : Command)
  | sequence (first second : Command)
  /-- A command that the script does not wait for. -/
  | background (command : Command)
  /-- The second command is run if the first one succeeds. -/
  | both (first second : Command)
  /-- The second command is run if the first one fails. -/
  | either (first second : Command)
  | negated (command : Command)
  | pipe (first second : Command)
  | branch (condition consequence alternative : Command)
  | loop (isUntil : Bool) (condition body : Command)
  /-- Runs the body for each word, or for each argument. -/
  | each (name : String) (words : Option (List Word)) (body : Command)
  | choice (subject : Word) (arms : Command)
  /-- An arm of a choice, in front of the other arms. -/
  | arm (patterns : List Word) (body rest : Command)
  | define (name : String) (body : Command)

end Shell

end Rehearsal

end Toolbench
