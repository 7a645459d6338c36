import Toolbench.Conversation.Client

/-!
# Sessions

A session is what happens to one client: it connects, sends prompts and forgets its
conversation in any order, while the tools may change between any two of these.
-/

namespace Toolbench

variable {ω : Type}

/-- What happens to a client, or around it. -/
inductive Operation (ω : Type) where
  | connect
  | send (prompt : String)
  | reset
  /-- Something outside the client changes, such as the tools of the moment. -/
  | change (step : ω → ω)

namespace Client

def fresh (maxTurns : Nat) (systemPrompt : Option String) (setting : Adapter.Setting) : Client :=
  { maxTurns, systemPrompt, setting }

def perform (surroundings : Surroundings ω) (client : Client) : Operation ω → StateM ω Client
  | .connect => do return (← client.connect surroundings).2
  | .send prompt => do return (← client.send surroundings prompt).2
  | .reset => return client.reset
  | .change step => do
      modify step
      return client

def performAll (surroundings : Surroundings ω) (client : Client) :
    List (Operation ω) → StateM ω Client
  | [] => return client
  | operation :: rest => do
      let client ← client.perform surroundings operation
      client.performAll surroundings rest

end Client

end Toolbench
