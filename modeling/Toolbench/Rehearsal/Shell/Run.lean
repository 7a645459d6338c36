import Toolbench.Environment.Basic
import Toolbench.Rehearsal.Shell.Builtin
import Toolbench.Rehearsal.Shell.Reader
import Toolbench.Rehearsal.Shell.Redirect

/-!
# Running shell scripts

What commands do to a session.  Commands inside of others are run with less fuel; a
script that uses up all of it is one that does not end.
-/

namespace Toolbench

namespace Rehearsal

namespace Shell

/-- Runs a command; with `true` if a condition is made of whether it succeeds. -/
abbrev Runner := Bool → Command → Session → Session

namespace Session

/-- Ends a strict script if the command has failed. -/
def check (session : Session) (tested : Bool) : Session :=
  if session.isStrict && !tested && session.status ≠ 0 && session.goesOn then
    { session with flow := .ended }
  else session

def endless (session : Session) : Session :=
  { session with millis := ages, flow := .ended }

def runLines (again : Runner) (tested : Bool) (last : Nat) : Nat → Tokens → Session → Session
  | 0, _, session => session
  | fuel + 1, tokens, session =>
      if !session.goesOn then session
      else
        match firstLine tokens with
        | .error misreading =>
            { session with line := misreading.line.getD last }.abort
              ("Syntax error: " ++ misreading.complaint)
        | .ok none => session
        | .ok (some (command, rest)) =>
            runLines again tested last fuel rest (again tested command session)

/-- Runs a script; an empty one succeeds. -/
def runText (again : Runner) (tested : Bool) (text : List Char) (session : Session) : Session :=
  let tokens := tokens text
  if (skipNewlines tokens).isEmpty then session.done 0
  else runLines again tested (text.count '\n' + 1) (tokens.length + 1) tokens session

def farewell (again : Runner) (session : Session) : Session :=
  match session.signal, session.traps.lookup "EXIT" with
  | none, some action =>
      let after := runText again false action.toList
        { session with flow := .onward, traps := session.traps.filter fun pair => pair.1 ≠ "EXIT" }
      if after.flow = .ended then after else { after.done session.status with flow := .ended }
  | _, _ => session

/-- What is left of a session that was run apart from this one. -/
def merge (session inner : Session) : Session :=
  { session with
    texts := inner.texts
    files := inner.files
    millis := inner.millis
    tasks := inner.tasks
    status := inner.status
    signal := inner.signal
    flow := if inner.signal.isSome then .ended else session.flow }

/-- Runs something that leaves the variables as they are. -/
def apart (again : Runner) (body : Session → Session) (session : Session) : Session :=
  session.merge (farewell again (body { session with traps := [] }))

def trimLines (text : String) : String :=
  String.ofList (text.toList.reverse.dropWhile (· = '\n')).reverse

def capture (again : Runner) : Capture := fun script session =>
  let place := session.freshPlace
  let inner := apart again (runText again false script)
    ((session.setPieces place []).connect 1 (some (.output place)))
  let text := String.ofList
    ((Text.Utf8.decodeLossy (inner.textAt place)).toList.filter fun c => c.toNat ≠ 0)
  (trimLines text,
    { inner with
      streams := session.streams
      texts := inner.texts.filter fun entry => entry.1 ≠ place
      outputStatus := some inner.status
      status := session.status })

def restore (session : Session) (old : String × Option String) : Session :=
  { session with
    bindings := match old.2 with
      | some value => session.bindings.set old.1 value
      | none => session.bindings.filter fun pair => pair.1 ≠ old.1 }

def callFunction (again : Runner) (tested : Bool) (body : Command) (words : List String)
    (session : Session) : Session :=
  if session.depth ≥ 1000 then session.abort "Maximum function recursion depth (1000) reached"
  else
    let inner := again tested body
      { session with arguments := words, depth := session.depth + 1, hidden := [], loops := 0 }
    { inner.hidden.foldl restore inner with
      arguments := session.arguments
      depth := session.depth
      hidden := session.hidden
      loops := session.loops
      flow := if inner.flow = .back then .onward else inner.flow }

/-- Runs a script that a shell of its own is started for, and the session behind it. -/
def runShell (again : Runner) (script : List Char) (session : Session) : Session :=
  farewell again (runText again false script session)

def startScript (again : Runner) (isText isInput : Bool) (words : List String) (session : Session) :
    Session :=
  let fault := fun text : String => { session with line := 0 }.abort text
  match words with
  | [] =>
      if isText then fault "-c requires an argument"
      else
        runShell again (Text.Utf8.decodeLossy (session.pending 0)).toList (session.setPending 0 [])
  | first :: rest =>
      if isText then
        runShell again first.toList
          { session with name := rest.headD session.name, arguments := rest.tail }
      else if isInput then
        runShell again (Text.Utf8.decodeLossy (session.pending 0)).toList
          { session.setPending 0 [] with arguments := words }
      else
        match session.file? first with
        | some text =>
            runShell again (Text.Utf8.decodeLossy text).toList
              { session with name := first, arguments := rest }
        | none =>
            if isDirectory (session.resolve first) then session
            else fault ("cannot open " ++ first ++ ": No such file")

def start (again : Runner) (isText isInput : Bool) : Nat → List String → Session → Session
  | 0, _, session => session
  | fuel + 1, words, session =>
      match words with
      | [] => startScript again isText isInput [] session
      | word :: rest =>
          match word.toList with
          | ['-', '-'] | ['-'] => startScript again isText isInput rest session
          | sign :: letter :: letters =>
              if sign ≠ '-' && sign ≠ '+' then startScript again isText isInput words session
              else if word = "-o" || word = "+o" then
                let session := setOptions 2 [word, rest.headD ""] { session with line := 0 }
                if session.goesOn then start again isText isInput fuel rest.tail session
                else session
              else
                let others := (letter :: letters).filter fun c => c ≠ 'c' && c ≠ 's' && c ≠ 'i'
                let session := setOptions 2 [String.ofList (sign :: others)]
                  { session with line := 0 }
                if !session.goesOn || letter = 'n' then session
                else
                  start again (isText || (letter :: letters).contains 'c')
                    (isInput || (letter :: letters).contains 's') fuel rest
                    (if others.isEmpty then { session with arguments := [] } else session)
          | _ => startScript again isText isInput words session

/-- Runs a shell of its own; what ends it by a signal is told. -/
def nested (again : Runner) (name : String) (words : List String) (session : Session) : Session :=
  let inner := start again false false (words.length + 1) words
    { name, arguments := [], bindings := session.exports
      exported := session.exports.map (·.1), directory := session.directory
      streams := session.streams, texts := session.texts, files := session.files
      millis := session.millis, tasks := session.tasks }
  let after := session.merge { inner with signal := none, status := inner.status % 256 }
  match inner.signal.bind fun signal => signalWords.lookup signal with
  | some text => after.write 2 (Rehearsal.line text)
  | none => after

def program (again : Runner) (name : String) (words : List String) (session : Session) : Session :=
  if name.isEmpty then session.fail 127 ": Permission denied"
  else if !isReached (session.named? "PATH") name then session.fail 127 (name ++ ": not found")
  else if programName name = "sh" || programName name = "dash" then nested again name words session
  else
    let call : Call :=
      { name, words, input := session.pending 0, directory := follow session.directory
        files := words.filterMap fun word => (session.file? word).map fun text => (word, text) }
    match call.ending? with
    | some ending =>
        let session := if programName name = "cat" then session.setPending 0 [] else session
        { (session.write 2 ending.stderr).write 1 ending.stdout with
          status := ending.code.getD 137
          millis := session.millis + ending.millis }
    | none =>
        let isThere := isDirectory (session.resolve name) || (session.file? name).isSome
        if name.contains '/' && isThere then session.fail 126 (name ++ ": Permission denied")
        else session.fail 127 (name ++ ": not found")

def answer (again : Runner) (session : Session) : Session :=
  match session.signal with
  | none => session
  | some signal =>
      match session.traps.lookup (signalName signal) with
      | some action =>
          if signalName signal = "KILL" then session
          else
            let after := runText again false action.toList
              { session.done 0 with signal := none, flow := .onward }
            if after.goesOn then after.done 0 else after
      | none => session

/-- Runs the script in a file in this session. -/
def source (again : Runner) (tested : Bool) (name : String) (session : Session) : Session :=
  match session.file? name with
  | some text =>
      let after := runText again tested (Text.Utf8.decodeLossy text).toList session
      if after.flow = .back then { after with flow := .onward } else after
  | none =>
      let session := { session with caller := some "." }
      if name.contains '/' then session.abort ("cannot open " ++ name ++ ": No such file")
      else session.abort (name ++ ": not found")

def perform (again : Runner) (tested usesFunctions : Bool) (name : String) (words : List String)
    (session : Session) : Session :=
  match name, words with
  | "eval", _ =>
      let after := runText again tested (" ".intercalate words).toList
        { session with caller := some "eval" }
      { after with caller := session.caller }
  | ".", file :: _ => source again tested file session
  | ".", [] | "exec", [] | "command", [] => session.done 0
  | "exec", program_ :: words =>
      { program again program_ words { session with caller := some "exec" } with
        flow := .ended, traps := [] }
  | _, _ =>
      let body? := if usesFunctions && !specials.contains name then session.functions.lookup name
        else none
      match body? with
      | some body => callFunction again tested body words session
      | none =>
          match builtin? name words { session with caller := some name } with
          | some after => answer again { after with caller := session.caller }
          | none => program again name words session

/-- Runs a command, perhaps one that is not to be a function. -/
def dispatch (again : Runner) (tested : Bool) (name : String) (words : List String)
    (session : Session) : Session :=
  match name, words with
  | "command", "-v" :: words => describe true session (words.take 1)
  | "command", "-V" :: words => describe false session (words.take 1)
  | "command", "-p" :: name :: words | "command", name :: words =>
      perform again tested false name words session
  | _, _ => perform again tested true name words session

def assignAll (again : Runner) : List Assignment → Session → List (String × String) × Session
  | [], session => ([], session)
  | (name, word) :: rest, session =>
      let (value, session) := session.textOf (capture again) word
      if !session.goesOn then ([], session)
      else
        let (others, session) := assignAll again rest (session.assign name value)
        ((name, value) :: others, session)

def trace (assigned : List (String × String)) (words : List String) (session : Session) : Session :=
  if session.wantsTrace then
    let shown := assigned.map (fun (name, value) => name ++ "=" ++ value) ++ words
    session.write 2 (Rehearsal.line ((session.named? "PS4").getD "+ " ++ " ".intercalate shown))
  else session

/-- Runs a command with the variables that are set only for it. -/
def runWith (again : Runner) (tested : Bool) (old : List (String × Option String)) (name : String)
    (words : List String) (session : Session) : Session :=
  if specials.contains name then dispatch again tested name words session
  else
    let added := (old.map (·.1)).filter fun name => !session.exported.contains name
    let after := dispatch again tested name words
      { session with exported := added ++ session.exported }
    { old.foldl restore after with
      exported := after.exported.filter fun name => !added.contains name }

def simple (again : Runner) (tested : Bool) (assignments : List Assignment) (words : List Word)
    (redirections : List Redirection) (session : Session) : Session :=
  let (words, session) := wordTexts (capture again) words { session with outputStatus := none }
  if !session.goesOn then session
  else
    match redirect (capture again) redirections session with
    | (inner, false) =>
        let inner := { inner with streams := session.streams }
        if words.head?.any specials.contains then { inner with flow := .ended }
        else inner.check tested
    | (inner, true) =>
        let old := assignments.map fun (name, _) => (name, inner.named? name)
        let (assigned, inner) := assignAll again assignments inner
        if !inner.goesOn then inner
        else
          let shown := trace assigned words { inner with streams := session.streams }
          let inner := { shown with streams := inner.streams }
          let after := match words with
            | [] => inner.done (inner.outputStatus.getD 0)
            | name :: words => runWith again tested old name words inner
          let keeps := words = ["exec"]
          { after with streams := if keeps then after.streams else session.streams }.check tested

/-- The session behind a turn of a loop, and whether there may be another turn. -/
def behindTurn (session : Session) : Bool × Session :=
  match session.flow with
  | .onward => (true, session)
  | .leave count =>
      (false, { session with flow := if count ≤ 1 then .onward else .leave (count - 1) })
  | .again count =>
      if count ≤ 1 then (true, { session with flow := .onward })
      else (false, { session with flow := .again (count - 1) })
  | _ => (false, session)

def turns (again : Runner) (tested isUntil : Bool) (condition body : Command) :
    Nat → Nat → Session → Session
  | 0, _, session => session.endless
  | count + 1, status, session =>
      match behindTurn (again true condition session) with
      | (false, session) => session
      | (true, session) =>
          if (session.status = 0) = isUntil then session.done status
          else
            match behindTurn (again tested body session) with
            | (false, session) => session
            | (true, session) =>
                turns again tested isUntil condition body count session.status session

def eachTurn (again : Runner) (tested : Bool) (name : String) (body : Command) :
    List String → Session → Session
  | [], session => session
  | word :: rest, session =>
      let session := session.assign name word
      if !session.goesOn then session
      else
        match behindTurn (again tested body session) with
        | (true, session) => eachTurn again tested name body rest session
        | (false, session) => session

def anyMatches (again : Runner) (text : List Char) : List Word → Session → Bool × Session
  | [], session => (false, session)
  | pattern :: rest, session =>
      let (field, session) := session.wholeField (capture again) pattern
      if matchesPattern field text then (true, session) else anyMatches again text rest session

/-- The body of the first arm with a pattern that stands for a text. -/
def chosen (again : Runner) (text : List Char) : Command → Session → Option Command × Session
  | .arm patterns body rest, session =>
      match anyMatches again text patterns session with
      | (true, session) => (some body, session)
      | (false, session) => chosen again text rest session
  | _, session => (none, session)

def isHeard (again : Runner) (command : Command) (session : Session) : Bool :=
  let redirections := match command with
    | .simple _ _ _ redirections | .redirected _ redirections => redirections
    | _ => []
  let (inner, _) := redirect (capture again) redirections session
  [1, 2].any fun stream =>
    inner.channel stream = some (.output 1) || inner.channel stream = some (.output 2)

def background (again : Runner) (command : Command) (session : Session) : Session :=
  let inner := apart again (again false command) (session.feed 0 [])
  let task : Task := { millis := inner.millis, isHeard := isHeard again command session }
  { inner.done 0 with
    streams := session.streams, millis := session.millis, tasks := task :: inner.tasks }

/-- Runs two commands of which the second one reads what the first one writes. -/
def pipe (again : Runner) (tested : Bool) (first second : Command) (session : Session) : Session :=
  let place := session.freshPlace
  let left := apart again (again tested first)
    ((session.setPieces place []).connect 1 (some (.output place)))
  let right := apart again (again tested second)
    ({ left with streams := session.streams, millis := session.millis }.connect 0
      (some (.input place)))
  { right with
    streams := session.streams
    texts := right.texts.filter fun entry => entry.1 ≠ place
    millis := max left.millis right.millis }

def turnLimit : Nat := 100000

def run : Nat → Runner
  | 0, _, _, session => session.endless
  | fuel + 1, tested, command, session =>
      let again := run fuel
      if !session.goesOn then session
      else
        match command with
        | .nothing | .arm .. => session
        | .simple line assignments words redirections =>
            simple again tested assignments words redirections { session with line }
        | .redirected command redirections =>
            match redirect (capture again) redirections session with
            | (inner, true) => { again tested command inner with streams := session.streams }
            | (inner, false) => { inner with streams := session.streams }.check tested
        | .apart body => (apart again (again tested body) session).check tested
        | .sequence first second => again tested second (again tested first session)
        | .background command => background again command session
        | .both first second =>
            let after := again true first session
            if after.status = 0 then again tested second after else after
        | .either first second =>
            let after := again true first session
            if after.status = 0 then after else again tested second after
        | .negated command =>
            let after := again true command session
            if after.goesOn then after.done (if after.status = 0 then 1 else 0) else after
        | .pipe first second => (pipe again tested first second session).check tested
        | .branch condition consequence alternative =>
            let after := again true condition session
            if !after.goesOn then after
            else if after.status = 0 then again tested consequence after
            else again tested alternative (after.done 0)
        | .loop isUntil condition body =>
            { turns again tested isUntil condition body turnLimit 0
                { session with loops := session.loops + 1 } with loops := session.loops }
        | .each name words body =>
            let (texts, inner) := match words with
              | some words => wordTexts (capture again) words session
              | none => (session.arguments, session)
            if !inner.goesOn then inner
            else
              { eachTurn again tested name body texts
                  { inner.done 0 with loops := session.loops + 1 } with loops := session.loops }
        | .choice subject arms =>
            let (text, inner) := session.textOf (capture again) subject
            if !inner.goesOn then inner
            else
              match chosen again text.toList arms inner with
              | (some body, inner) =>
                  if body matches .nothing then inner.done 0 else again tested body inner
              | (none, inner) => inner.done 0
        | .define name body =>
            { session.done 0 with
              functions := (name, body) :: session.functions.filter fun pair => pair.1 ≠ name }

end Session

def variablesOf (environment : Environment) : Variables :=
  environment.foldl (fun (bindings : Variables) (name, value) =>
    if isName name && name ≠ "IFS" && (bindings.lookup name).isNone then
      bindings ++ [(name, value)]
    else bindings) []

def fuel : Nat := 10000

end Shell

def shell (environment : Environment) (call : Call) : Ending :=
  let bindings := Shell.variablesOf environment
  let session := Shell.Session.start (Shell.Session.run Shell.fuel) false false
    (call.words.length + 1) call.words
    { name := call.name, arguments := []
      bindings := (bindings.set "PWD" call.directory).set "OPTIND" "1"
      exported := "PWD" :: bindings.map (·.1), directory := call.directory
      streams := [(0, .input 0), (1, .output 1), (2, .output 2)]
      texts := [(0, [call.input]), (1, []), (2, [])] }
  { code := if session.signal.isSome then none else some (session.status % 256)
    stdout := session.textAt 1
    stderr := session.textAt 2
    millis := (session.tasks.filter (·.isHeard)).foldl (fun millis task => max millis task.millis)
      session.millis }

end Rehearsal

end Toolbench
