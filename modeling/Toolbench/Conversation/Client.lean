import Toolbench.Conversation.Backend
import Toolbench.Conversation.Dispatch

/-!
# Clients

A client holds one conversation.  Sending a prompt asks the model for replies, runs
the calls that it asks for and tells it the results, until it gives an answer or the
limit on turns is reached.
-/

namespace Toolbench

inductive ClientState where
  | disconnected
  | connected
  | awaitingModel
  | dispatchingTools
  | done
  | failed
deriving DecidableEq

structure Client where
  maxTurns : Nat := 10
  systemPrompt : Option String := none
  /-- The surroundings of the tools that it runs. -/
  setting : Adapter.Setting := {}
  state : ClientState := .disconnected
  history : List Message := []

/-- How sending a prompt ends without a fault. -/
inductive Outcome where
  | answer (text : String)
  | turnLimit
deriving DecidableEq

/-- How sending a prompt ends without a fault, and how many replies that took. -/
structure Conversation where
  outcome : Outcome
  turns : Nat
deriving DecidableEq

def turnLimitMessage (turns : Nat) : String :=
  "conversation stopped after " ++ toString turns ++ " turns without a final answer"

/-- What a client reaches through: a backend, a host, and the tools of the moment. -/
structure Surroundings (ω : Type) where
  backend : Backend ω
  host : Adapter.Host ω
  catalog : ω → Catalog
  /-- The order in which the calls of a reply are completed. -/
  completion : ω → (count : Nat) → Dispatch.Completion count :=
    fun _ count => .asRequested count

namespace Client

variable {ω : Type}

/-- The result of an operation, and the client after it. -/
abbrev Result (α : Type) := Except ClientFault α × Client

/-- Forgets the conversation; a connection stays. -/
def reset (client : Client) : Client :=
  { client with
    history := []
    state := if client.state = .disconnected then .disconnected else .connected }

def connect (surroundings : Surroundings ω) (client : Client) : StateM ω (Result Unit) := do
  match ← surroundings.backend.connect with
  | .ok () => return (.ok (), { client with state := .connected })
  | .error fault => return (.error fault, { client with state := .disconnected })

/-- The client with a prompt behind the conversation, which the system prompt starts. -/
def ask (client : Client) (prompt : String) : Client :=
  let start :=
    match client.history, client.systemPrompt with
    | [], some prompt => [Message.system prompt]
    | history, _ => history
  { client with history := start ++ [.user prompt] }

def finish (client : Client) (answer : String) (turns : Nat) :
    Result Conversation :=
  (.ok ⟨.answer answer, turns⟩,
    { client with history := client.history ++ [.assistant answer], state := .done })

/-- Asks for the reply to the conversation as it stands, with the tools of the moment. -/
def request (surroundings : Surroundings ω) (client : Client) :
    StateM ω (Except ClientFault Reply) := do
  let tools := (surroundings.catalog (← get)).functionEntries
  surroundings.backend.complete client.history tools

/-- Runs the calls of a reply and puts them and their results behind the conversation. -/
def dispatch (surroundings : Surroundings ω) (client : Client) (content : Option String)
    (calls : List ToolCall) : StateM ω Client := do
  let client := { client with state := .dispatchingTools }
  let completion := surroundings.completion (← get) calls.length
  let results ←
    Dispatch.answers surroundings.host client.setting surroundings.catalog calls completion
  return { client with history := client.history ++ .calls content calls :: results }

/-- Takes turns until the model answers, given how many turns are left. -/
def takeTurns (surroundings : Surroundings ω) (client : Client) :
    Nat → StateM ω (Result Conversation)
  | 0 => return (.ok ⟨.turnLimit, client.maxTurns⟩, { client with state := .failed })
  | left + 1 => do
      let client := { client with state := .awaitingModel }
      match ← client.request surroundings with
      | .error fault => return (.error fault, { client with state := .failed })
      | .ok (.final answer) => return client.finish answer (client.maxTurns - left)
      | .ok (.calls content []) =>
          return client.finish (content.getD "") (client.maxTurns - left)
      | .ok (.calls content calls) =>
          let client ← client.dispatch surroundings content calls
          takeTurns surroundings client left

def send (surroundings : Surroundings ω) (client : Client) (prompt : String) :
    StateM ω (Result Conversation) :=
  if client.state = .disconnected then pure (.error .notConnected, client)
  else takeTurns surroundings (client.ask prompt) client.maxTurns

end Client

end Toolbench
