import Toolbench.Template.Basic
import Toolbench.Text.Blank

/-!
# Request bodies

A body template in the shape of a JSON document gets JSON values: escaped text where
a placeholder stands inside a string literal, and a JSON value elsewhere.  Any other
template gets plain text.
-/

namespace Toolbench

namespace Body

inductive Quoting where
  | outside
  | inside
  /-- Inside a string literal and behind a backslash. -/
  | escaped
deriving DecidableEq

def Quoting.step (state : Quoting) (c : Char) : Quoting :=
  match state with
  | .escaped => .inside
  | .inside => if c = '\\' then .escaped else if c = '"' then .outside else .inside
  | .outside => if c = '"' then .inside else .outside

def endsInString (before : List Char) : Bool :=
  before.foldl Quoting.step .outside != .outside

/-- Whether the first character that is not blank opens an object or an array. -/
def isJsonShaped (template : String) : Bool :=
  let trimmed := Text.trim template
  match trimmed.toList.head? with
  | some c => (c = '{' || c = '[') && (Template.sole? trimmed).isNone
  | none => false

/-- An argument as a JSON document holds it behind the given text. -/
def jsonImage (before : List Char) (value : Option Json) : List Char :=
  if endsInString before then Json.escapeChars (Template.argumentText value)
  else (value.getD .null).writeChars

def render (template : String) (arguments : Arguments) : String :=
  if isJsonShaped template then
    Template.renderWith (m := Id) jsonImage template arguments
  else Template.render template arguments

end Body

end Toolbench
