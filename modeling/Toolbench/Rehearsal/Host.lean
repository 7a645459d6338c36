import Toolbench.Adapter.Host
import Toolbench.Rehearsal.Shell.Run

/-!
# The rehearsal host

A host that leaves the machine alone: it knows a handful of programs and reaches no
peer.  Tools can be tried out on it without any effect.
-/

namespace Toolbench

namespace Rehearsal

def holdsZero (launch : Launch) : Bool :=
  (launch.program :: launch.workingDir.getD "" :: launch.arguments ++
    launch.environment.flatMap fun (name, value) => [name, value]).any fun text =>
      text.toList.any fun c => c.toNat = 0

def ending (launch : Launch) : Except String Ending :=
  let directory := follow (resolve "." (launch.workingDir.getD "."))
  let call : Call := { name := launch.program, words := launch.arguments, directory }
  if !isDirectory directory || launch.workingDir = some "" then
    .error "No such file or directory (os error 2)"
  else if !isReached (launch.environment.get? "PATH") launch.program then
    .error "No such file or directory (os error 2)"
  else if ["sh", "dash"].contains (programName launch.program) then
    .ok (shell launch.environment call)
  else
    match call.ending? with
    | some ending => .ok ending
    | none =>
        if launch.program.contains '/' && isDirectory (resolve directory launch.program) then
          .error "Permission denied (os error 13)"
        else .error "No such file or directory (os error 2)"

/-- Runs a program; starting it takes a moment. -/
def run (launch : Launch) : RunEnd :=
  if holdsZero launch then .notStarted "nul byte found in provided data"
  else
    match ending launch with
    | .error reason => .notStarted reason
    | .ok ending =>
        if launch.timeoutMillis ≤ ending.millis then .timedOut
        else .ended ending.code ending.stdout ending.stderr

/-- The host: programs run as rehearsed, and requests reach nobody. -/
def host {ω : Type} : Adapter.Host ω where
  exchange := fun request _ => pure (.failed (.unsent request.url))
  run := fun launch => pure (run launch)

end Rehearsal

end Toolbench
