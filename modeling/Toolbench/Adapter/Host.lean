import Toolbench.Invocation.Exchange
import Toolbench.Invocation.Run

/-!
# Hosts

A host is what tools reach through: it sends requests and runs programs.  Its
effects are steps of a state that nothing else looks into, so that a host may be
any environment at all.
-/

namespace Toolbench

namespace Adapter

/-- The effects that tools need, as steps of a state. -/
structure Host (ω : Type) where
  /-- Sends a request to a web address, with a time limit if there is one. -/
  exchange : Request → Option Nat → StateM ω Exchange
  run : Launch → StateM ω RunEnd

namespace Host

variable {ω : Type}

/-- Sends a request, unless its address is none that requests go to. -/
def deliver (host : Host ω) (request : Request) (timeoutMillis : Option Nat) :
    StateM ω Exchange :=
  if request.url.isWeb then host.exchange request timeoutMillis
  else pure (.failed (.noWebAddress request.url))

end Host

end Adapter

end Toolbench
