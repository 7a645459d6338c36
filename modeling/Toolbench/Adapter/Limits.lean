/-!
# Limits of tool runs
-/

namespace Toolbench

namespace Adapter

/-- How long a tool may run and how much it may answer, where its handler does not say. -/
structure Limits where
  httpTimeoutMillis : Nat := 30000
  shellTimeoutMillis : Nat := 30000
  maxOutputBytes : Nat := 1048576
deriving DecidableEq

end Adapter

end Toolbench
