import Toolbench.Adapter.Outcome
import Toolbench.Json.Syntax
import Toolbench.Tool.Arguments

/-!
# Failed calls

Why one call of a tool fails.  A failure ends only that call: the model is told of
it in the place of a result.
-/

namespace Toolbench

inductive CallFault where
  | validation (error : ValidationError)
  | unknownTool (name : String)
  | adapter (fault : Adapter.Fault)
  /-- The model sent the call malformed. -/
  | malformed (tool reason : String)
  /-- The text of the arguments is no JSON. -/
  | unreadable (tool : String) (error : Json.SyntaxError)

namespace CallFault

def kindName : CallFault → String
  | validation _ => "validation_error"
  | unknownTool _ => "unknown_tool"
  | adapter _ => "adapter_invocation_error"
  | malformed _ _ => "invalid_arguments"
  | unreadable _ _ => "invalid_arguments"

def unparsed (tool reason : String) : String :=
  "failed to parse arguments for tool '" ++ tool ++ "': " ++ reason

def message : CallFault → String
  | validation error => error.message
  | unknownTool name => "tool '" ++ name ++ "' not found"
  | adapter fault => fault.message
  | malformed tool reason => unparsed tool reason
  | unreadable tool error => unparsed tool error.message

def toJson (fault : CallFault) : Json :=
  .ofMembers [("error", .ofMembers [
    ("kind", .string fault.kindName), ("message", .string fault.message)])]

/-- The text by which the model is told of a failure. -/
def payload (fault : CallFault) : String :=
  fault.toJson.write

end CallFault

end Toolbench
