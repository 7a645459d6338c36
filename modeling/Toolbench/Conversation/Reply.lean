import Toolbench.Conversation.Message
import Toolbench.Json.Printer

/-!
# Replies of models

What a model says to a conversation: an answer, or calls of tools.  In the body of
a completion each call is read on its own; one that cannot be run stays in its place
and carries the reason.
-/

namespace Toolbench

inductive Reply where
  | final (answer : String)
  | calls (content : Option String) (calls : List ToolCall)
deriving DecidableEq

namespace Reply

/-- Why a completion holds no reply. -/
inductive Fault where
  | noChoices
  | emptyChoices
  | noMessage
deriving DecidableEq

def Fault.message : Fault → String
  | noChoices => "No choices in response"
  | emptyChoices => "Empty choices array"
  | noMessage => "No message in response"

def firstMessage (body : Json) : Except Fault Json :=
  match (body.get? "choices").bind Json.items? with
  | none => .error .noChoices
  | some [] => .error .emptyChoices
  | some (choice :: _) =>
      match choice.get? "message" with
      | some message => .ok message
      | none => .error .noMessage

def contentOf (message : Json) : Option String :=
  (message.get? "content").bind Json.string?

def nonEmptyText? (value : Option Json) : Option String :=
  (value.bind Json.string?).filter (· ≠ "")

/-- The name of the function of a call, empty where there is none. -/
def calledName (call : Json) : String :=
  (((call.get? "function").bind (·.get? "name")).bind Json.string?).getD ""

/-- The identifier of a call that came without one. -/
def missingId (position : Nat) : String :=
  "call_" ++ toString position ++ "_missing_id"

def callOf (position : Nat) (call : Json) : ToolCall :=
  match nonEmptyText? (call.get? "id") with
  | none =>
      { id := missingId position, name := calledName call,
        malformed := some "tool call has no id" }
  | some id =>
      match call.get? "function" with
      | none => { id, name := "", malformed := some "tool call has no function" }
      | some function =>
          match nonEmptyText? (function.get? "name") with
          | none => { id, name := "", malformed := some "tool call has no function name" }
          | some name =>
              match function.get? "arguments" with
              | none | some .null => { id, name }
              | some (.string arguments) => { id, name, arguments }
              | some (.object members) =>
                  { id, name, arguments := (Json.object members).write }
              | some other =>
                  { id, name, malformed :=
                      some ("arguments must be a JSON object, got " ++ other.write) }

/-- The calls of a message, unless it has none. -/
def callsOf (message : Json) : Option (List ToolCall) :=
  match message.get? "tool_calls" with
  | some (.array (call :: rest)) => some ((call :: rest).mapIdx callOf)
  | _ => none

def ofMessage (message : Json) : Reply :=
  match callsOf message with
  | some asked => .calls (contentOf message) asked
  | none => .final ((contentOf message).getD "")

/-- The reply that the body of a completion holds. -/
def ofCompletion (body : Json) : Except Fault Reply :=
  (firstMessage body).map ofMessage

end Reply

end Toolbench
