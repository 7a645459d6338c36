import Toolbench.Files.Fault
import Toolbench.Registry.Basic
import Toolbench.Script.Document
import Toolbench.Template.CommandLine

/-!
# Declaring tools

A builder collects the tools that one script declares.  A tool is opened by its
name and description, then given parameters and a handler, and checked when the
next one is opened or the script ends.  Nothing is registered before the end, and
then all tools are or none.
-/

namespace Toolbench

namespace Script

inductive DeclarationFault where
  | document (refusal : Yaml.Refusal)
  | openQuote (error : CommandLine.OpenQuote)
  | noHandlerKind
  | bothHandlerKinds
  | outsideTool (what : String)
  | secondHandler (name : String)
  | noHandler (name : String)
  | redeclared (name : String)
  | tool (fault : ToolFault)

def DeclarationFault.message : DeclarationFault → String
  | .document refusal => "invalid tool script: " ++ refusal.message
  | .openQuote error => error.message
  | .noHandlerKind => "handler must declare exactly one of 'http' or 'shell'"
  | .bothHandlerKinds => "handler must declare exactly one of 'http' or 'shell', found both"
  | .outsideTool what => what ++ " declared outside of a tool block"
  | .secondHandler name => "tool '" ++ name ++ "' declares more than one handler"
  | .noHandler name => "tool '" ++ name ++ "' has no handler"
  | .redeclared name => "tool '" ++ name ++ "' is declared more than once in this file"
  | .tool fault => fault.message

/-- Why a script registers nothing. -/
inductive ScriptFault where
  /-- The file cannot be read. -/
  | unreadable (path : String) (fault : Files.Fault)
  | declaration (source : String) (fault : DeclarationFault)
  | duplicate (source : String) (error : DuplicateTool)

def ScriptFault.message : ScriptFault → String
  | .unreadable path fault => "failed to read " ++ path ++ ": " ++ fault.message
  | .declaration source fault => source ++ ": " ++ fault.message
  | .duplicate source error => source ++ ": " ++ error.message

structure PendingTool where
  name : String
  description : String
  parameters : List Parameter := []
  handler : Option Handler := none

/-- The tools that a script declares. -/
structure Builder where
  source : String
  /-- The tools that are complete, in order. -/
  declared : List Tool := []
  pending : Option PendingTool := none

namespace Builder

def complete (builder : Builder) (pending : PendingTool) : Except DeclarationFault Tool :=
  match pending.handler with
  | none => .error (.noHandler pending.name)
  | some handler =>
      if builder.declared.any fun tool => tool.name == pending.name then
        .error (.redeclared pending.name)
      else
        match Tool.ofSpec ⟨pending.name, pending.description, pending.parameters, handler⟩
            builder.source with
        | .ok tool => .ok tool
        | .error fault => .error (.tool fault)

/-- Closes the open declaration, if there is one; it is gone also if it is refused. -/
def close (builder : Builder) : Except DeclarationFault Unit × Builder :=
  match builder.pending with
  | none => (.ok (), builder)
  | some pending =>
      match builder.complete pending with
      | .ok tool =>
          (.ok (), { builder with declared := builder.declared ++ [tool], pending := none })
      | .error fault => (.error fault, { builder with pending := none })

/-- Opens the declaration of a tool and closes the one before it. -/
def addTool (name description : String) (builder : Builder) :
    Except DeclarationFault Unit × Builder :=
  match builder.close with
  | (.ok (), builder) => (.ok (), { builder with pending := some { name, description } })
  | (.error fault, builder) => (.error fault, builder)

def addParameter (parameter : Parameter) (builder : Builder) :
    Except DeclarationFault Unit × Builder :=
  match builder.pending with
  | none => (.error (.outsideTool "parameter"), builder)
  | some pending =>
      let parameters := pending.parameters ++ [parameter]
      (.ok (), { builder with pending := some { pending with parameters } })

def setHandler (handler : Handler) (builder : Builder) :
    Except DeclarationFault Unit × Builder :=
  match builder.pending with
  | none => (.error (.outsideTool "handler"), builder)
  | some pending =>
      match pending.handler with
      | some _ => (.error (.secondHandler pending.name), builder)
      | none => (.ok (), { builder with pending := some { pending with handler := some handler } })

/-- Ends the script and registers its tools; the answer is their number. -/
def finish (builder : Builder) (registry : Registry) : Except ScriptFault Nat × Registry :=
  match builder.close with
  | (.error fault, _) => (.error (.declaration builder.source fault), registry)
  | (.ok (), closed) =>
      match registry.registerAll closed.declared with
      | (.ok count, registry) => (.ok count, registry)
      | (.error error, registry) => (.error (.duplicate builder.source error), registry)

end Builder

end Script

end Toolbench
