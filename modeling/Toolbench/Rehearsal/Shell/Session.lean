import Toolbench.Rehearsal.Place
import Toolbench.Rehearsal.Program
import Toolbench.Rehearsal.Shell.Arithmetic

/-!
# Shell sessions

What a script that is run knows and has done: its bindings and functions, the streams
of its commands, and how it goes on.
-/

namespace Toolbench

namespace Rehearsal

open Text (Bytes)

namespace Shell

inductive Channel where
  | nowhere
  /-- Bytes are added to an output. -/
  | output (place : Nat)
  /-- Bytes are taken from an input. -/
  | input (place : Nat)
deriving DecidableEq

inductive Flow where
  | onward
  /-- Leaves so many loops. -/
  | leave (loops : Nat)
  /-- Goes on with the next turn of the loop behind so many. -/
  | again (loops : Nat)
  /-- Leaves the function. -/
  | back
  | ended
deriving DecidableEq

/-- Work that a script has not waited for. -/
structure Task where
  /-- When it is done. -/
  millis : Nat
  /-- Whether it could still write to the outputs of the script. -/
  isHeard : Bool

structure Session where
  /-- The name of the script. -/
  name : String
  /-- The command that complaints are made in the name of. -/
  caller : Option String := none
  arguments : List String
  bindings : Variables
  /-- The variables that scripts run by this one have. -/
  exported : List String
  constants : List String := []
  /-- The variables of the function, with what they hide. -/
  hidden : List (String × Option String) := []
  /-- How many functions are being run. -/
  depth : Nat := 0
  functions : List (String × Command) := []
  directory : String
  status : Nat := 0
  /-- The line of the command. -/
  line : Nat := 1
  streams : List (Nat × Channel)
  /-- The pieces of outputs and inputs by their places, the last piece first. -/
  texts : List (Nat × List Bytes)
  /-- The places of the files that the script has written. -/
  files : List (String × Nat) := []
  millis : Nat := 0
  tasks : List Task := []
  flow : Flow := .onward
  /-- How many loops are around the command. -/
  loops : Nat := 0
  /-- The status of the last script whose output was taken. -/
  outputStatus : Option Nat := none
  /-- Whether a command that fails ends the script. -/
  isStrict : Bool := false
  /-- Whether variables have to be set. -/
  wantsSet : Bool := false
  /-- Whether patterns are left as they are. -/
  keepsPatterns : Bool := false
  /-- Whether commands are shown before they are run. -/
  wantsTrace : Bool := false
  /-- What is run at signals and at the end. -/
  traps : List (String × String) := []
  /-- The signal that ended the script. -/
  signal : Option Nat := none

namespace Session

def goesOn (session : Session) : Bool :=
  session.flow = .onward

def textAt (session : Session) (place : Nat) : Bytes :=
  ((session.texts.lookup place).getD []).reverse.flatten

def setPieces (session : Session) (place : Nat) (pieces : List Bytes) : Session :=
  { session with texts := (place, pieces) :: session.texts.filter fun entry => entry.1 ≠ place }

def freshPlace (session : Session) : Nat :=
  (session.texts.map (·.1)).foldl max 0 + 1

def channel (session : Session) (stream : Nat) : Option Channel :=
  session.streams.lookup stream

def connect (session : Session) (stream : Nat) (channel : Option Channel) : Session :=
  let others := session.streams.filter fun entry => entry.1 ≠ stream
  { session with
    streams := match channel with
      | some channel => (stream, channel) :: others
      | none => others }

def write (session : Session) (stream : Nat) (bytes : Bytes) : Session :=
  match session.channel stream with
  | some (.output place) =>
      if bytes.isEmpty then session
      else session.setPieces place (bytes :: (session.texts.lookup place).getD [])
  | _ => session

def pending (session : Session) (stream : Nat) : Bytes :=
  match session.channel stream with
  | some (.input place) => session.textAt place
  | _ => []

def setPending (session : Session) (stream : Nat) (rest : Bytes) : Session :=
  match session.channel stream with
  | some (.input place) => session.setPieces place [rest]
  | _ => session

def complain (session : Session) (text : String) : Session :=
  let caller := match session.caller with
    | some caller => caller ++ ": "
    | none => ""
  session.write 2
    (Rehearsal.line (session.name ++ ": " ++ toString session.line ++ ": " ++ caller ++ text))

/-- The session behind a command with a status. -/
def done (session : Session) (status : Nat) : Session :=
  { session with status }

def fail (session : Session) (status : Nat) (text : String) : Session :=
  (session.complain text).done status

def abort (session : Session) (text : String) : Session :=
  { session.fail 2 text with flow := .ended }

def named? (session : Session) (name : String) : Option String :=
  session.bindings.lookup name

/-- Sets a variable, unless it is constant. -/
def assign (session : Session) (name value : String) : Session :=
  if session.constants.contains name then session.abort (name ++ ": is read only")
  else { session with bindings := session.bindings.set name value }

/-- Unsets a variable, unless it is constant. -/
def unassign (session : Session) (name : String) : Session :=
  if session.constants.contains name then session.abort (name ++ ": is read only")
  else { session with bindings := session.bindings.filter fun pair => pair.1 ≠ name }

/-- The variables that other scripts get from this one. -/
def exports (session : Session) : Variables :=
  session.bindings.filter fun pair => session.exported.contains pair.1

def resolve (session : Session) (name : String) : String :=
  follow (Rehearsal.resolve session.directory name)

/-- The text of a file that the script has written. -/
def file? (session : Session) (name : String) : Option Bytes :=
  (session.files.lookup (session.resolve name)).map session.textAt

def fileTest (session : Session) (letter : Char) (name : String) : Bool :=
  let place := session.resolve name
  if name.isEmpty then false
  else if isDirectory place then "edsrwx".toList.contains letter
  else if place = "/dev/null" then "erwc".toList.contains letter
  else if programs.contains (programName place) && place ≠ programName place then
    "efsrwx".toList.contains letter
  else
    match session.file? name with
    | some text => "efrwO".toList.contains letter || (letter = 's' && !text.isEmpty)
    | none => false

end Session

end Shell

end Rehearsal

end Toolbench
