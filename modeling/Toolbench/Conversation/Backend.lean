import Toolbench.Conversation.Reply
import Toolbench.Registry.Basic

/-!
# Model backends

A backend is what a conversation is held with.  Like those of a host, its effects
are steps of a state.
-/

namespace Toolbench

inductive ClientFault where
  | connection (reason : String)
  | notConnected
  | backend (reason : String)
deriving DecidableEq

def ClientFault.message : ClientFault → String
  | connection reason => "connection to model backend failed: " ++ reason
  | notConnected => "client is not connected"
  | backend reason => "model backend error: " ++ reason

/-- A model service, as steps of a state. -/
structure Backend (ω : Type) where
  connect : StateM ω (Except ClientFault Unit)
  /-- The reply to a conversation, given the tools that may be called. -/
  complete : List Message → List FunctionEntry → StateM ω (Except ClientFault Reply)

end Toolbench
