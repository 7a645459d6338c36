import Toolbench.Rehearsal.Shell.Expansion

/-!
# Redirections

Streams of commands that are connected to files, to other streams and to texts.
-/

namespace Toolbench

namespace Rehearsal

namespace Shell

namespace Session

def feed (session : Session) (stream : Nat) (text : Text.Bytes) : Session :=
  let place := session.freshPlace
  (session.setPieces place [text]).connect stream (some (.input place))

def cannot (session : Session) (what name reason : String) : Session × Bool :=
  (session.fail 2 ("cannot " ++ what ++ " " ++ name ++ ": " ++ reason), false)

def openOutput (session : Session) (stream : Nat) (isKept : Bool) (name : String) :
    Session × Bool :=
  let target := session.resolve name
  if target = "/dev/null" then (session.connect stream (some .nowhere), true)
  else if target = "/dev/stdout" then (session.connect stream (session.channel 1), true)
  else if target = "/dev/stderr" then (session.connect stream (session.channel 2), true)
  else if isDirectory target then session.cannot "create" name "Is a directory"
  else if name.isEmpty || !isDirectory (parent target) then
    session.cannot "create" name "Directory nonexistent"
  else
    match session.files.lookup target with
    | some place =>
        let session := if isKept then session else session.setPieces place []
        (session.connect stream (some (.output place)), true)
    | none =>
        let place := session.freshPlace
        (({ session with files := session.files ++ [(target, place)] }.setPieces place []).connect
          stream (some (.output place)), true)

def openInput (session : Session) (stream : Nat) (name : String) : Session × Bool :=
  let target := session.resolve name
  if target = "/dev/null" then (session.feed stream [], true)
  else if target = "/dev/stdin" then (session.connect stream (session.channel 0), true)
  else
    match session.file? name with
    | some text => (session.feed stream text, true)
    | none => session.cannot "open" name "No such file"

/-- Does what a redirection says, and whether that can be done. -/
def redirectOne (capture : Capture) (session : Session) : Redirection → Session × Bool
  | .file stream opening name =>
      let (name, session) := session.textOf capture name
      if !session.goesOn then (session, false)
      else if opening = .read then session.openInput stream name
      else session.openOutput stream (opening = .append) name
  | .copy stream source =>
      let (source, session) := session.textOf capture source
      if !session.goesOn then (session, false)
      else if source = "-" then (session.connect stream none, true)
      else
        match source.toNat?.bind session.channel with
        | some channel => (session.connect stream (some channel), true)
        | none =>
            if source.toNat?.isSome then (session.fail 2 (source ++ ": Bad file descriptor"), false)
            else (session.abort "Syntax error: Bad fd number", false)
  | .document stream text =>
      let (text, session) := session.textOf capture text
      (session.feed stream (Text.Utf8.encode text), session.goesOn)

/-- Does what redirections say, up to the first that cannot be done. -/
def redirect (capture : Capture) : List Redirection → Session → Session × Bool
  | [], session => (session, true)
  | redirection :: rest, session =>
      match session.redirectOne capture redirection with
      | (session, true) => redirect capture rest session
      | (session, false) => (session, false)

end Session

end Shell

end Rehearsal

end Toolbench
