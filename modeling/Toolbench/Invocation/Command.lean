import Toolbench.Tool.Handler

/-!
# Commands

The argument list of a program.  Each word of the handler is filled on its own and
stays one word; a word that is nothing but a placeholder is left out where the
argument is absent.
-/

namespace Toolbench

namespace Command

/-- Whether an argument is there and is not `null`. -/
def isPresent (arguments : Arguments) (name : String) : Bool :=
  match arguments.find? name with
  | some value => !value.isNull
  | none => false

def keeps (arguments : Arguments) (word : String) : Bool :=
  match Template.sole? word with
  | some name => isPresent arguments name
  | none => true

def render (command : List String) (arguments : Arguments) : List String :=
  (command.filter (keeps arguments)).map fun word => Template.render word arguments

end Command

end Toolbench
