import Toolbench.Invocation.Request

/-!
# Exchanges

What becomes of a request that is sent: no answer in time, a failure, or an answer
whose body may break off.
-/

namespace Toolbench

inductive SendFault where
  /-- The text of the address is no address. -/
  | noAddress
  /-- Requests do not go to addresses of this kind. -/
  | noWebAddress (url : Url)
  | unsent (url : Url)
  /-- The body breaks off or is not what is expected. -/
  | brokenBody
deriving DecidableEq

namespace SendFault

/-- The address as messages show it, which is without its credentials. -/
def shownUrl (url : Url) : String :=
  { url with username := "", password := "" }.text

def message : SendFault → String
  | noAddress => "builder error"
  | noWebAddress url => "builder error for url (" ++ shownUrl url ++ ")"
  | unsent url => "error sending request for url (" ++ shownUrl url ++ ")"
  | brokenBody => "error decoding response body"

end SendFault

structure HttpAnswer where
  status : Nat
  /-- The headers in the order in which they came, with names in lower case. -/
  headers : List (String × Text.Bytes) := []
  /-- The body, unless it broke off. -/
  body : Option Text.Bytes
deriving DecidableEq

inductive Exchange where
  | timedOut
  | failed (fault : SendFault)
  | answered (answer : HttpAnswer)
deriving DecidableEq

end Toolbench
