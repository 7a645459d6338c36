import Toolbench.Tool.Handler
import Toolbench.Tool.Parameter

/-!
# Tool definitions

A declared tool, the checks that every definition passes before it is used, and
the schema of its arguments.
-/

namespace Toolbench

inductive ToolFault where
  | invalidName (name : String)
  | parameter (tool : String) (fault : Parameter.Fault)
  | duplicateParameter (tool : String) (name : String)
  | handler (tool : String) (fault : Handler.Fault)
  | unknownPlaceholder (tool : String) (name : String)

def ToolFault.message : ToolFault → String
  | .invalidName name => "invalid tool name '" ++ name ++ "'"
  | .parameter tool fault => "tool '" ++ tool ++ "': " ++ fault.message
  | .duplicateParameter tool name =>
      "tool '" ++ tool ++ "': duplicate parameter '" ++ name ++ "'"
  | .handler tool fault => "tool '" ++ tool ++ "': " ++ fault.message
  | .unknownPlaceholder tool name =>
      "tool '" ++ tool ++ "': placeholder '\x7b" ++ name ++
        "\x7d' does not name a declared parameter"

structure ToolSpec where
  name : String
  description : String := ""
  parameters : List Parameter := []
  handler : Handler

namespace ToolSpec

def parameterNames (spec : ToolSpec) : List String :=
  spec.parameters.map (·.name)

/-- Checks parameters in order, given the names of those before them. -/
def checkParameters (tool : String) : List String → List Parameter → Except ToolFault Unit
  | _, [] => .ok ()
  | seen, parameter :: rest =>
      match parameter.check with
      | .error fault => .error (.parameter tool fault)
      | .ok () =>
          if seen.contains parameter.name then .error (.duplicateParameter tool parameter.name)
          else checkParameters tool (parameter.name :: seen) rest

/-- The first placeholder in the templates that names no parameter. -/
def unknownPlaceholder? (spec : ToolSpec) : Option String :=
  (spec.handler.templates.flatMap Template.placeholders).find? fun name =>
    !spec.parameterNames.contains name

/-- Checks the name, the parameters, the handler and the placeholders, in this order. -/
def check (spec : ToolSpec) : Except ToolFault Unit := do
  if !Name.isToolName spec.name.toList then
    throw (.invalidName spec.name)
  checkParameters spec.name [] spec.parameters
  match spec.handler.check with
  | .error fault => throw (.handler spec.name fault)
  | .ok () => pure ()
  match spec.unknownPlaceholder? with
  | some name => throw (.unknownPlaceholder spec.name name)
  | none => pure ()

end ToolSpec

/-- A tool whose declaration passed every check, and where it was declared. -/
structure Tool extends ToolSpec where
  source : String
  checked : toToolSpec.check = .ok ()

namespace Tool

def ofSpec (spec : ToolSpec) (source : String) : Except ToolFault Tool :=
  match h : spec.check with
  | .ok () => .ok { spec with source, checked := h }
  | .error fault => .error fault

def parameter? (tool : Tool) (name : String) : Option Parameter :=
  tool.parameters.find? fun parameter => parameter.name == name

/-- The schema of the arguments: an object with the parameters as its only members. -/
def inputSchema (tool : Tool) : Json :=
  .ofMembers [
    ("type", .string "object"),
    ("properties", .ofMembers (tool.parameters.map fun p => (p.name, p.schema))),
    ("required", .array ((tool.parameters.filter Parameter.isDemanded).map fun p =>
      .string p.name)),
    ("additionalProperties", .bool false)]

end Tool

end Toolbench
