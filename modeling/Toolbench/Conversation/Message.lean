import Toolbench.Json.Decode

/-!
# Messages

What a conversation with a model consists of, and how messages travel: as objects
whose members stand in a fixed order and are left out where nothing is to say.
-/

namespace Toolbench

inductive Role where
  | system
  | user
  | assistant
  | tool
deriving DecidableEq

namespace Role

def name : Role → String
  | system => "system"
  | user => "user"
  | assistant => "assistant"
  | tool => "tool"

def all : List Role :=
  [system, user, assistant, tool]

def ofName? (word : String) : Option Role :=
  all.find? fun role => role.name == word

end Role

/-- A call of a tool, as a model asks for it. -/
structure ToolCall where
  id : String
  type : String := "function"
  name : String
  /-- The text of the arguments. -/
  arguments : String := ""
  /-- Why the call cannot be run, if the model sent it malformed; this does not travel. -/
  malformed : Option String := none
deriving DecidableEq

structure Message where
  role : Role
  content : Option String := none
  toolCalls : Option (List ToolCall) := none
  /-- The call that the message answers. -/
  toolCallId : Option String := none
deriving DecidableEq

namespace ToolCall

def toJson (call : ToolCall) : Json :=
  .object [
    ("id", .string call.id),
    ("type", .string call.type),
    ("function", .object [
      ("name", .string call.name),
      ("arguments", .string call.arguments)])]

/-- The function of a call and the text of its arguments. -/
structure FunctionFields where
  name : Option String := none
  arguments : String := ""

open Json.Decoder

def functionField (key : String) (fields : FunctionFields) : Json.Decoder FunctionFields :=
  fun value =>
    match key with
    | "name" => do return { fields with name := some (← string value) }
    | _ => do return { fields with arguments := ← string value }

def function : Json.Decoder (String × String) := fun value => do
  let kind : RecordKind := ⟨"struct FunctionCall", ["name", "arguments"], ["arguments"]⟩
  let fields ← record kind functionField {} value
  return (← demanded "name" fields.name, fields.arguments)

structure Fields where
  id : Option String := none
  type : String := "function"
  function : Option (String × String) := none

def field (key : String) (fields : Fields) : Json.Decoder Fields := fun value =>
  match key with
  | "id" => do return { fields with id := some (← string value) }
  | "type" => do return { fields with type := ← string value }
  | _ => do return { fields with function := some (← function value) }

def decode : Json.Decoder ToolCall := fun value => do
  let kind : RecordKind := ⟨"struct ToolCall", ["id", "type", "function"], ["type"]⟩
  let fields ← record kind field {} value
  let id ← demanded "id" fields.id
  let (name, arguments) ← demanded "function" fields.function
  return { id, type := fields.type, name, arguments }

end ToolCall

namespace Message

def system (content : String) : Message :=
  { role := .system, content := some content }

def user (content : String) : Message :=
  { role := .user, content := some content }

def assistant (content : String) : Message :=
  { role := .assistant, content := some content }

def calls (content : Option String) (calls : List ToolCall) : Message :=
  { role := .assistant, content, toolCalls := some calls }

def toolResult (callId content : String) : Message :=
  { role := .tool, content := some content, toolCallId := some callId }

/-- A member that is left out where there is no value. -/
def member {α : Type} (key : String) (value : Option α) (encode : α → Json) : Json.Members :=
  match value with
  | some value => [(key, encode value)]
  | none => []

def toJson (message : Message) : Json :=
  .object (("role", .string message.role.name) ::
    member "content" message.content .string ++
    member "tool_calls" message.toolCalls (fun calls => .array (calls.map ToolCall.toJson)) ++
    member "tool_call_id" message.toolCallId .string)

structure Fields where
  role : Option Role := none
  content : Option String := none
  toolCalls : Option (List ToolCall) := none
  toolCallId : Option String := none

open Json.Decoder

def field (key : String) (fields : Fields) : Json.Decoder Fields := fun value =>
  match key with
  | "role" => do
      let role ← variant (Role.all.map (·.name)) Role.ofName? value
      return { fields with role := some role }
  | "content" => do return { fields with content := ← optional string value }
  | "tool_calls" => do
      return { fields with toolCalls := ← optional (list ToolCall.decode) value }
  | _ => do return { fields with toolCallId := ← optional string value }

def decode : Json.Decoder Message := fun value => do
  let kind : RecordKind :=
    ⟨"struct Message", ["role", "content", "tool_calls", "tool_call_id"], []⟩
  let fields ← record kind field {} value
  let role ← demanded "role" fields.role
  return { fields with role }

end Message

end Toolbench
