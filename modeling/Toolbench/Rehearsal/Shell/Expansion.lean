import Toolbench.Rehearsal.Shell.Pattern
import Toolbench.Rehearsal.Shell.Session

/-!
# Expansion of words

What the parts of words come to.  The text of parts without quotes is divided at the
separators of the session; text in quotes stays as it is.
-/

namespace Toolbench

namespace Rehearsal

namespace Shell

/-- Characters, each with whether it was in quotes. -/
abbrev Field := List (Char × Bool)

structure Fields where
  /-- The finished fields, the last one first. -/
  done : List Field := []
  /-- The field that is being read, its last character first. -/
  current : Option Field := none
  /-- Whether blanks have just ended a field. -/
  behindBlank : Bool := false

namespace Fields

def add (fields : Fields) (text : List Char) (quoted : Bool) : Fields :=
  { fields with
    current := some ((text.map fun c => (c, quoted)).reverse ++ fields.current.getD [])
    behindBlank := false }

def close (fields : Fields) : Fields :=
  match fields.current with
  | some field => { fields with done := field.reverse :: fields.done, current := none }
  | none => fields

/-- Adds a character of text that is divided at separators. -/
def divide (separators : List Char) (fields : Fields) (c : Char) : Fields :=
  if !separators.contains c then fields.add [c] false
  else if isSpace c then
    { fields.close with behindBlank := fields.behindBlank || fields.current.isSome }
  else if fields.behindBlank then { fields with behindBlank := false }
  else { fields with done := (fields.current.getD []).reverse :: fields.done, current := none }

def all (fields : Fields) : List Field :=
  fields.close.done.reverse

end Fields

def Field.text (field : Field) : String :=
  String.ofList (field.map (·.1))

abbrev Capture := List Char → Session → String × Session

namespace Session

/-- The characters at which text is divided. -/
def separators (session : Session) : List Char :=
  ((session.named? "IFS").getD " \t\n").toList

/-- What stands between arguments that are joined. -/
def joint (session : Session) : String :=
  String.ofList (session.separators.take 1)

def parameter? (session : Session) (name : String) : Option String :=
  match name.toNat? with
  | some 0 => some session.name
  | some position => session.arguments[position - 1]?
  | none =>
      if name = "#" then some (toString session.arguments.length)
      else if name = "?" then some (toString session.status)
      else if name = "$" then some "1"
      else if name = "-" then
        some ((if session.wantsSet then "u" else "") ++ (if session.wantsTrace then "x" else "") ++
          (if session.keepsPatterns then "f" else "") ++ if session.isStrict then "e" else "")
      else if name = "!" then none
      else if name = "@" then some (" ".intercalate session.arguments)
      else if name = "*" then some (session.joint.intercalate session.arguments)
      else session.named? name

def sumComplaint (text : List Char) : SumFault → String
  | .malformed wanted =>
      "arithmetic expression: expecting " ++ wanted ++ ": \"" ++ String.ofList text ++ "\""
  | .divisionByZero =>
      "arithmetic expression: division by zero: \"" ++ String.ofList text ++ "\""
  | .badNumber word => "Illegal number: " ++ word

def addArguments (session : Session) (quoted : Bool) (fields : Fields) : Fields :=
  match session.arguments with
  | [] => if fields.current = some [] then { fields with current := none } else fields
  | first :: rest =>
      let addOne := fun (fields : Fields) (argument : String) =>
        if quoted then fields.add argument.toList true
        else argument.toList.foldl (Fields.divide session.separators) fields
      rest.foldl (fun fields argument => addOne fields.close argument) (addOne fields first)

def addValue (session : Session) (divides quoted : Bool) (value : String) (fields : Fields) :
    Fields :=
  if quoted || !divides then fields.add value.toList quoted
  else value.toList.foldl (Fields.divide session.separators) fields

/-- The directory of the user in place of a tilde at the start of a word. -/
def expandTilde (session : Session) (word : Word) : Word :=
  match word with
  | .text ['~'] false :: rest =>
      match rest, session.named? "HOME" with
      | [], some home | .text ['/'] false :: _, some home => .text home.toList true :: rest
      | _, _ => word
  | _ => word

/--
The fields that the parts of a word come to, and the session behind them.  `isInner` tells
that the word stands inside of another one, so that its own text is divided too.
-/
def expandParts (capture : Capture) (divides : Bool) :
    Nat → Bool → Word → Session → Fields → Fields × Session
  | 0, _, _, session, fields => (fields, session)
  | _ + 1, _, [], session, fields => (fields, session)
  | fuel + 1, isInner, part :: rest, session, fields =>
      if !session.goesOn then (fields, session)
      else
        let inner := fun (quoted : Bool) (text : List Char) (session : Session) (fields : Fields) =>
          match wordOf (if quoted then .inner else .operand) text with
          | .ok word => expandParts capture divides fuel true word session fields
          | .error complaint => (fields, session.abort ("Syntax error: " ++ complaint))
        let joined := fun (quoted : Bool) (text : List Char) (session : Session) =>
          match wordOf (if quoted then .inner else .operand) text with
          | .ok word =>
              let (fields, session) := expandParts capture false fuel true word session {}
              (fields.all.flatten, session)
          | .error complaint => ([], session.abort ("Syntax error: " ++ complaint))
        let (fields, session) := match part with
          | .text text quoted =>
              if isInner && !quoted && divides then
                (text.foldl (Fields.divide session.separators) fields, session)
              else (fields.add text quoted, session)
          | .output script quoted =>
              let (text, session) := capture script session
              (session.addValue divides quoted text fields, session)
          | .sum expression quoted =>
              let (text, session) := joined true expression session
              let text := text.map (·.1)
              match evaluateSum text session.bindings with
              | .ok (value, bindings) =>
                  (session.addValue divides quoted (toString value) fields,
                    { session with bindings })
              | .error fault =>
                  if session.goesOn then (fields, session.abort (sumComplaint text fault))
                  else (fields, session)
          | .parameter name use operand quoted =>
              let value? := session.parameter? name
              let value := value?.getD ""
              let isList := name = "@" || (name = "*" && !quoted)
              let add := fun (session : Session) (fields : Fields) =>
                if isList && divides then session.addArguments quoted fields
                else session.addValue divides quoted ((session.parameter? name).getD "") fields
              match use with
              | .unknown => (fields, session.abort "Bad substitution")
              | .value =>
                  if value?.isNone && session.wantsSet && name ≠ "@" && name ≠ "*" then
                    (fields, session.abort (name ++ ": parameter not set"))
                  else (add session fields, session)
              | .length =>
                  let length := (Text.Utf8.encode value).length
                  (session.addValue divides quoted (toString length) fields, session)
              | .trim atEnd longest =>
                  let (pattern, session) := joined false operand session
                  let text := trimPattern pattern atEnd longest value.toList
                  (session.addValue divides quoted (String.ofList text) fields, session)
              | .otherwise action alsoEmpty =>
                  let isSet := value?.isSome && !(alsoEmpty && value.isEmpty)
                  if action = '+' then
                    if isSet then inner quoted operand session fields
                    else (if quoted then fields.add [] true else fields, session)
                  else if isSet then (add session fields, session)
                  else if action = '-' then inner quoted operand session fields
                  else
                    let (text, session) := joined quoted operand session
                    let text := String.ofList (text.map (·.1))
                    if action = '=' then
                      let session :=
                        if isName name then session.assign name text
                        else session.abort (name ++ ": bad variable name")
                      (session.addValue divides quoted text fields, session)
                    else
                      let usual :=
                        if alsoEmpty then "parameter not set or null" else "parameter not set"
                      (fields, session.abort
                        (name ++ ": " ++ if operand.isEmpty then usual else text))
        expandParts capture divides fuel isInner rest session fields

/-- How many steps the expansion of a part takes at most. -/
def expansionSteps : Part → Nat
  | .text .. | .output .. => 1
  | .parameter _ _ operand _ => operand.length + 2
  | .sum expression _ => expression.length + 2

/-- The fields of a word, as one where it is not divided. -/
def expand (capture : Capture) (divides : Bool) (word : Word) (session : Session) :
    List Field × Session :=
  let word := session.expandTilde word
  let (fields, session) :=
    expandParts capture divides ((word.map expansionSteps).foldl (· + ·) 1) false word session {}
  (fields.all, session)

/-- The names of files that a field is a pattern of, or else its text. -/
def namesOf (session : Session) (field : Field) : List String :=
  let isPattern := field.any fun (c, quoted) => !quoted && (c = '*' || c = '?' || c = '[')
  let names := (session.files.map (·.1)).filter fun name =>
    isPattern && !session.keepsPatterns && !name.startsWith "." && matchesPattern field name.toList
  if names.isEmpty then [field.text] else names.mergeSort fun a b => a ≤ b

def wordTexts (capture : Capture) : List Word → Session → List String × Session
  | [], session => ([], session)
  | word :: rest, session =>
      let (fields, session) := session.expand capture true word
      let (others, session) := wordTexts capture rest session
      (fields.flatMap session.namesOf ++ others, session)

def wholeField (capture : Capture) (word : Word) (session : Session) : Field × Session :=
  let (fields, session) := session.expand capture false word
  (fields.flatten, session)

def textOf (capture : Capture) (word : Word) (session : Session) : String × Session :=
  let (field, session) := session.wholeField capture word
  (field.text, session)

end Session

end Shell

end Rehearsal

end Toolbench
