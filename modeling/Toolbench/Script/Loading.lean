import Toolbench.Script.Directory
import Toolbench.Script.Evaluation

/-!
# Loading scripts

A load evaluates the scripts below a root one after the other, into a registry of
its own that starts empty, and then puts the resulting catalog in the place of the
live one.  A script that fails leaves nothing behind but its report.  The files do not change
while they are loaded and every one of them can be read, so the only script without a text is
one that is no UTF-8.
-/

namespace Toolbench

namespace Script

open Files
open Text (Bytes)

/-- Evaluates a script from a file; its path is the source of its tools. -/
def evaluateFile (path : String) (text : Except Files.Fault String) (registry : Registry) :
    Except ScriptFault Nat × Registry :=
  match text with
  | .ok text => evaluate path text registry
  | .error fault => (.error (.unreadable path fault), registry)

def evaluatePath (path : Bytes) (tree : Tree) (registry : Registry) :
    Except ScriptFault Nat × Registry :=
  evaluateFile (shown path) (tree.readText path) registry

/-- A script that contributed nothing. -/
structure LoadFailure where
  path : String
  fault : ScriptFault

structure LoadSummary where
  toolsLoaded : Nat
  filesProcessed : Nat
  filesFailed : Nat := 0
  failures : List LoadFailure := []

namespace LoadSummary

def isClean (summary : LoadSummary) : Bool :=
  summary.failures.isEmpty

def line (summary : LoadSummary) : String :=
  "loaded " ++ toString summary.toolsLoaded ++ " tools from " ++
    toString summary.filesProcessed ++ " files (" ++ toString summary.filesFailed ++ " failed)"

end LoadSummary

/-- A load on its way: the registry that it fills, and what failed so far. -/
structure LoadState where
  staging : Registry
  filesFailed : Nat := 0
  failures : List LoadFailure := []

namespace LoadState

def step (state : LoadState) (file : ScriptFile) : LoadState :=
  match evaluateFile file.path (Tree.textOf file.content) state.staging with
  | (.ok _, staging) => { state with staging }
  | (.error fault, staging) =>
      { staging, filesFailed := state.filesFailed + 1,
        failures := state.failures ++ [⟨file.path, fault⟩] }

/-- The state after scripts in order, from an empty registry of the policy. -/
def run (policy : DuplicatePolicy) (files : List ScriptFile) : LoadState :=
  files.foldl step { staging := { policy } }

end LoadState

/-- Loads the scripts below a root; a refused root leaves the registry as it was. -/
def load (root : Bytes) (tree : Tree) (registry : Registry) :
    Except UnreadableRoot LoadSummary × Registry :=
  match discover root tree with
  | .error fault => (.error fault, registry)
  | .ok files =>
      let state := LoadState.run registry.policy files
      let catalog := state.staging.current
      (.ok { toolsLoaded := catalog.size, filesProcessed := files.length,
             filesFailed := state.filesFailed, failures := state.failures },
        registry.replace catalog)

end Script

end Toolbench
