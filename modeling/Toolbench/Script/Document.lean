import Toolbench.Tool.Definition
import Toolbench.Yaml.Decode

/-!
# Script documents

The typed blocks of a tool script, and reading them from YAML.  A block is not
checked for sense here: that is done when it is declared.
-/

namespace Toolbench

namespace Script

open Yaml (Decoder Refusal Path)
open Yaml.Decoder

/-- A command as a line to be split or as its words. -/
abbrev CommandBlock := String ⊕ List String

structure ShellBlock where
  command : CommandBlock
  timeoutSecs : Option Nat := none
  workingDir : Option String := none
  env : List (String × String) := []
  maxOutputBytes : Option Nat := none

/-- The handlers of a tool block, of which there should be one. -/
structure HandlerBlock where
  http : Option HttpHandler := none
  shell : Option ShellBlock := none

structure ToolBlock where
  name : String
  description : String := ""
  enabled : Bool := true
  parameters : List Parameter := []
  handler : HandlerBlock

structure ParameterFields where
  name : Option String := none
  type : ParamType := .string
  required : Bool := false
  default : Option Json := none
  description : String := ""
  allowed : Option (List Json) := none

def parameterField (key : String) (fields : ParameterFields) : Decoder ParameterFields :=
  fun path node =>
    match key with
    | "name" => do return { fields with name := some (← string path node) }
    | "type" => do
        let type ← variant (ParamType.all.map (·.name)) ParamType.ofName? path node
        return { fields with type }
    | "required" => do return { fields with required := ← bool path node }
    | "default" => do return { fields with default := ← optional json path node }
    | "description" => do return { fields with description := ← string path node }
    | _ => do return { fields with allowed := ← optional (list json) path node }

def parameter : Decoder Parameter := fun path node => do
  let kind : RecordKind :=
    ⟨"struct ParameterBlock",
      ["name", "type", "required", "default", "description", "enum"], false⟩
  let fields ← record kind parameterField {} path node
  let name ← demanded "name" path fields.name
  return { fields with name }

structure HttpFields where
  method : String := "GET"
  url : Option String := none
  headers : List (String × String) := []
  body : Option String := none
  timeoutSecs : Option Nat := none

def httpField (key : String) (fields : HttpFields) : Decoder HttpFields :=
  fun path node =>
    match key with
    | "method" => do return { fields with method := ← string path node }
    | "url" => do return { fields with url := some (← string path node) }
    | "headers" => do return { fields with headers := ← stringMap path node }
    | "body" => do return { fields with body := ← optional string path node }
    | _ => do return { fields with timeoutSecs := ← optional (natural "u64") path node }

def http : Decoder HttpHandler := fun path node => do
  let kind : RecordKind :=
    ⟨"struct HttpBlock", ["method", "url", "headers", "body", "timeout_secs"], false⟩
  let fields ← record kind httpField {} path node
  let url ← demanded "url" path fields.url
  return { fields with url }

structure ShellFields where
  command : Option CommandBlock := none
  timeoutSecs : Option Nat := none
  workingDir : Option String := none
  env : List (String × String) := []
  maxOutputBytes : Option Nat := none

def shellField (key : String) (fields : ShellFields) : Decoder ShellFields :=
  fun path node =>
    match key with
    | "command" => do
        return { fields with command := some (← textOrList "CommandBlock" path node) }
    | "timeout_secs" => do
        return { fields with timeoutSecs := ← optional (natural "u64") path node }
    | "working_dir" => do
        return { fields with workingDir := ← optional (text "path string") path node }
    | "env" => do return { fields with env := ← stringMap path node }
    | _ => do return { fields with maxOutputBytes := ← optional (natural "u64") path node }

def shell : Decoder ShellBlock := fun path node => do
  let kind : RecordKind :=
    ⟨"struct ShellBlock",
      ["command", "timeout_secs", "working_dir", "env", "max_output_bytes"], false⟩
  let fields ← record kind shellField {} path node
  let command ← demanded "command" path fields.command
  return { fields with command }

def handlerField (key : String) (fields : HandlerBlock) : Decoder HandlerBlock :=
  fun path node =>
    match key with
    | "http" => do return { fields with http := ← optional http path node }
    | _ => do return { fields with shell := ← optional shell path node }

def handler : Decoder HandlerBlock :=
  record ⟨"struct HandlerBlock", ["http", "shell"], false⟩ handlerField {}

structure ToolFields where
  name : Option String := none
  description : String := ""
  enabled : Bool := true
  parameters : List Parameter := []
  handler : Option HandlerBlock := none

def toolField (key : String) (fields : ToolFields) : Decoder ToolFields :=
  fun path node =>
    match key with
    | "name" => do return { fields with name := some (← string path node) }
    | "description" => do return { fields with description := ← string path node }
    | "enabled" => do return { fields with enabled := ← bool path node }
    | "parameters" => do return { fields with parameters := ← list parameter path node }
    | _ => do return { fields with handler := some (← handler path node) }

def tool : Decoder ToolBlock := fun path node => do
  let kind : RecordKind :=
    ⟨"struct ToolBlock", ["name", "description", "enabled", "parameters", "handler"], false⟩
  let fields ← record kind toolField {} path node
  let name ← demanded "name" path fields.name
  let handler ← demanded "handler" path fields.handler
  return { fields with name, handler }

/-- A whole document: its tool blocks, if it has any. -/
def document : Decoder (List ToolBlock) := fun path node => do
  let kind : RecordKind := ⟨"struct ScriptDocument", ["tools"], false⟩
  let tools ← record kind (fun _ _ => optional (list tool)) none path node
  return tools.getD []

def blocks (text : String) : Except Refusal (List ToolBlock) :=
  Yaml.decode document text

end Script

end Toolbench
