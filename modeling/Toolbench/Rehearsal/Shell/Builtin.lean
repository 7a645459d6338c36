import Toolbench.Rehearsal.Shell.Condition
import Toolbench.Rehearsal.Shell.Expansion

/-!
# Commands of shells

The commands that a shell runs itself and that run no other commands.
-/

namespace Toolbench

namespace Rehearsal

namespace Shell

/-- The commands whose faults end a script. -/
def specials : List String :=
  ["break", ":", "continue", ".", "eval", "exec", "exit", "export", "local", "readonly", "return",
    "set", "shift", "times", "trap", "unset"]

def builtins : List String :=
  specials ++ ["[", "alias", "cd", "chdir", "command", "echo", "false", "hash", "jobs", "kill",
    "printf", "pwd", "read", "test", "true", "type", "umask", "wait"]

/-- The letters of the options of commands that refuse other ones. -/
def optionLetters : List (String × String) :=
  [("cd", "LP"), ("chdir", "LP"), ("export", "p"), ("printf", ""), ("pwd", "LP"), ("read", "pr"),
    ("readonly", "p"), ("type", ""), ("umask", "S"), ("unset", "fv"), ("wait", "")]

/-- The first letter among the options of a command that is none of its options. -/
def wrongOption? (letters : String) : List String → Option Char
  | [] => none
  | word :: rest =>
      match word.toList with
      | ['-', '-'] => none
      | '-' :: letter :: others =>
          match (letter :: others).find? fun c => !letters.toList.contains c with
          | some wrong => some wrong
          | none =>
              if others.getLast?.getD letter = 'p' then none else wrongOption? letters rest
      | _ => none

/-- The number below 2^31 that a word of digits spells. -/
def number? (word : String) : Option Nat :=
  let value := Floating.digitsValue word.toList
  if word.isEmpty || !word.toList.all Char.isDigit || 0x80000000 ≤ value then none else some value

def signals : List (Nat × String) :=
  [(0, "EXIT"), (1, "HUP"), (2, "INT"), (3, "QUIT"), (4, "ILL"), (5, "TRAP"), (6, "ABRT"),
    (7, "BUS"), (8, "FPE"), (9, "KILL"), (10, "USR1"), (11, "SEGV"), (12, "USR2"), (13, "PIPE"),
    (14, "ALRM"), (15, "TERM"), (16, "STKFLT"), (17, "CHLD"), (18, "CONT"), (19, "STOP"),
    (20, "TSTP"), (21, "TTIN"), (22, "TTOU"), (23, "URG"), (24, "XCPU"), (25, "XFSZ"),
    (26, "VTALRM"), (27, "PROF"), (28, "WINCH"), (29, "POLL"), (30, "PWR"), (31, "SYS")]

/-- The number of a signal, of which a word is the name or the number. -/
def signal? (word : String) : Option Nat :=
  match number? word with
  | some number => if number ≤ 64 then some number else none
  | none =>
      let name := word.toUpper
      let name := if name.startsWith "SIG" then (name.drop 3).toString else name
      (signals.find? fun signal => signal.2 = name).map (·.1)

def signalName (number : Nat) : String :=
  (signals.lookup number).getD (toString number)

/-- What a shell says of a program that a signal has ended. -/
def signalWords : List (Nat × String) :=
  [(1, "Hangup"), (3, "Quit"), (4, "Illegal instruction"), (5, "Trace/breakpoint trap"),
    (6, "Aborted"), (7, "Bus error"), (8, "Floating point exception"), (9, "Killed"),
    (10, "User defined signal 1"), (11, "Segmentation fault"), (12, "User defined signal 2"),
    (14, "Alarm clock"), (15, "Terminated")]

namespace Session

/-- A complaint of a command, which ends the script if it is special. -/
def refuse (session : Session) (name text : String) : Session :=
  if specials.contains name then session.abort text else session.fail 2 text

/-- Writes words between single spaces; escapes stand for other characters. -/
def echo (session : Session) (words : List String) : Session :=
  let isOpen := words.head? = some "-n"
  let text := " ".intercalate (if isOpen then words.tail else words)
  let (bytes, halt) := Format.unescape { name := "echo", inShell := true } .echo text
  let bytes := if isOpen || halt.isSome then bytes else bytes ++ [0x0A]
  (session.write 1 bytes).done 0

def printf (session : Session) (words : List String) : Session :=
  match if words.head? = some "--" then words.tail else words with
  | [] => session.fail 2 "usage: printf format [arg ...]"
  | format :: arguments =>
      let printing := Format.print { name := "printf", inShell := true } format arguments
      let session := printing.complaints.foldl complain session
      (session.write 1 printing.output).done printing.code

def changeDirectory (session : Session) (words : List String) : Session :=
  let words := words.filter fun word => word ≠ "-L" && word ≠ "-P" && word ≠ "--"
  let target? := match words with
    | [] => session.named? "HOME"
    | "-" :: _ => some ((session.named? "OLDPWD").getD "")
    | word :: _ => some word
  match target? with
  | none => session.done 0
  | some target =>
      if target.isEmpty then
        (if words.head? = some "-" then session.write 1 (Rehearsal.line session.directory)
          else session).done 0
      else
        let place := Rehearsal.resolve session.directory target
        if !isDirectory place then session.fail 2 ("can't cd to " ++ target)
        else
          let bindings :=
            (session.bindings.set "OLDPWD" session.directory).set "PWD" place
          let session := { session with directory := place, bindings }
          if words.head? = some "-" then (session.write 1 (Rehearsal.line place)).done 0
          else session.done 0

def exit (session : Session) (words : List String) : Session :=
  match words with
  | [] => { session with flow := .ended }
  | word :: _ =>
      match number? word with
      | some number => { session.done (number % 256) with flow := .ended }
      | none => session.abort ("Illegal number: " ++ word)

def leaveFunction (session : Session) (words : List String) : Session :=
  match words with
  | [] => { session with flow := .back }
  | word :: _ =>
      match number? word with
      | some number => { session.done number with flow := .back }
      | none => session.abort ("Illegal number: " ++ word)

/-- Leaves loops or goes on with their next turns. -/
def leaveLoops (session : Session) (flow : Nat → Flow) (words : List String) : Session :=
  match number? (words.headD "1") with
  | some (count + 1) =>
      if session.loops = 0 then session.done 0
      else { session.done 0 with flow := flow (min (count + 1) session.loops) }
  | _ => session.abort ("Illegal number: " ++ words.headD "")

def shift (session : Session) (words : List String) : Session :=
  match number? (words.headD "1") with
  | none => session.abort ("Illegal number: " ++ words.headD "")
  | some count =>
      if session.arguments.length < count then session.abort "can't shift that many"
      else { session.done 0 with arguments := session.arguments.drop count }

def unset (session : Session) (words : List String) : Session :=
  let names := words.filter fun word => !word.startsWith "-"
  let isFunction := words.contains "-f"
  names.foldl (fun session name =>
    if !session.goesOn then session
    else if isFunction then
      { session with functions := session.functions.filter fun pair => pair.1 ≠ name }
    else if !isName name then session.abort (name ++ ": bad variable name")
    else session.unassign name) (session.done 0)

def splitAssignment (word : String) : String × Option String :=
  let letters := word.toList
  let name := letters.takeWhile (· ≠ '=')
  (String.ofList name,
    if name.length < letters.length then some (String.ofList (letters.drop (name.length + 1)))
    else none)

def declare (mark : Session → String → Session) (session : Session) (words : List String) :
    Session :=
  (words.filter fun word => !word.startsWith "-").foldl (fun session word =>
    let (name, value?) := splitAssignment word
    if !session.goesOn then session
    else if !isName name then session.abort (name ++ ": bad variable name")
    else
      match value? with
      | some value =>
          let session := session.assign name value
          if session.goesOn then mark session name else session
      | none => mark session name) (session.done 0)

/-- Hides a variable as long as the function runs. -/
def hide (session : Session) (name : String) : Session :=
  if (session.hidden.lookup name).isSome then session
  else { session with hidden := (name, session.named? name) :: session.hidden }

def declareLocal (session : Session) (words : List String) : Session :=
  if session.depth = 0 then session.abort "not in a function"
  else
    let names := words.map fun word => (splitAssignment word).1
    declare (fun session _ => session) (names.foldl hide session) words

/-- Sets options, and the arguments if there are words for them. -/
def setOptions : Nat → List String → Session → Session
  | 0, _, session => session
  | _ + 1, [], session => session.done 0
  | fuel + 1, word :: rest, session =>
      match word.toList with
      | ['-', '-'] => { session.done 0 with arguments := rest }
      | ['-'] => if rest.isEmpty then session.done 0 else { session.done 0 with arguments := rest }
      | ['-', 'o'] | ['+', 'o'] =>
          let isOn := word = "-o"
          match rest.headD "" with
          | "errexit" => setOptions fuel rest.tail { session with isStrict := isOn }
          | "nounset" => setOptions fuel rest.tail { session with wantsSet := isOn }
          | "noglob" => setOptions fuel rest.tail { session with keepsPatterns := isOn }
          | "xtrace" => setOptions fuel rest.tail { session with wantsTrace := isOn }
          | name =>
              if ["allexport", "monitor", "noclobber", "noexec", "ignoreeof", "notify",
                  "verbose", "vi", "emacs", "nolog", "debug", ""].contains name then
                setOptions fuel rest.tail session
              else session.abort ("Illegal option " ++ word ++ " " ++ name)
      | sign :: letter :: letters =>
          if sign = '-' || sign = '+' then
            let isOn := sign = '-'
            match (letter :: letters).find? fun c => !"aefnuvxCbmI".toList.contains c with
            | some wrong => session.abort ("Illegal option " ++ String.ofList [sign, wrong])
            | none =>
                let has := (letter :: letters).contains
                setOptions fuel rest
                  { session with
                    isStrict := if has 'e' then isOn else session.isStrict
                    wantsSet := if has 'u' then isOn else session.wantsSet
                    keepsPatterns := if has 'f' then isOn else session.keepsPatterns
                    wantsTrace := if has 'x' then isOn else session.wantsTrace }
          else { session.done 0 with arguments := word :: rest }
      | _ => { session.done 0 with arguments := word :: rest }

/-- The parts of a line for so many variables; the last one gets what is left. -/
def splitLine (separators : List Char) : Nat → List Char → List (List Char)
  | 0, _ => []
  | 1, text =>
      let isBlank := fun c => isSpace c && separators.contains c
      [((text.dropWhile isBlank).reverse.dropWhile isBlank).reverse]
  | count + 2, text =>
      let isBlank := fun c => isSpace c && separators.contains c
      let text := text.dropWhile isBlank
      let part := text.takeWhile fun c => !separators.contains c
      let behind := (text.drop part.length).dropWhile isBlank
      let behind := match behind with
        | c :: rest =>
            if separators.contains c && !isSpace c then rest else behind
        | [] => []
      part :: splitLine separators (count + 1) behind

/-- A line without the backslashes that keep characters, and what is behind it. -/
def takeLine (isRaw : Bool) : Nat → List Char → List Char × Bool × List Char
  | 0, text => ([], false, text)
  | _ + 1, [] => ([], false, [])
  | _ + 1, '\n' :: rest => ([], true, rest)
  | fuel + 1, '\\' :: c :: rest =>
      if isRaw then
        let (line, isWhole, behind) := takeLine isRaw fuel (c :: rest)
        ('\\' :: line, isWhole, behind)
      else
        let (line, isWhole, behind) := takeLine isRaw fuel rest
        (if c = '\n' then line else c :: line, isWhole, behind)
  | fuel + 1, c :: rest =>
      let (line, isWhole, behind) := takeLine isRaw fuel rest
      (c :: line, isWhole, behind)

def read (session : Session) (words : List String) : Session :=
  let isRaw := words.contains "-r"
  let names := match words with
    | "-p" :: _ :: rest => rest.filter (· ≠ "-r")
    | "-r" :: "-p" :: _ :: rest => rest
    | _ => words.filter (· ≠ "-r")
  if names.isEmpty then session.fail 2 "arg count"
  else if let some wrong := names.find? fun name => !isName name then
    session.fail 2 (wrong ++ ": bad variable name")
  else
    let text := (Text.Utf8.decodeLossy (session.pending 0)).toList
    let (line, isWhole, behind) := takeLine isRaw (text.length + 1) text
    let session := session.setPending 0 (Text.Utf8.encodeChars behind)
    let values := splitLine session.separators names.length line
    let session := (names.zip values).foldl (fun session (name, value) =>
      if !session.goesOn then session else session.assign name (String.ofList value)) session
    if session.goesOn then session.done (if isWhole then 0 else 1) else session

def test (session : Session) (words : List String) : Session :=
  match Condition.evaluate session.fileTest words with
  | .ok true => session.done 0
  | .ok false => session.done 1
  | .error complaint => session.fail 2 complaint

/-- Sets what is run at signals; a word that is no signal is refused. -/
def trap (session : Session) (words : List String) : Session :=
  match if words.head? = some "--" then words.tail else words with
  | [] =>
      let lines := session.traps.map fun (name, action) =>
        "trap -- '" ++ action.replace "'" "'\"'\"'" ++ "' " ++ name
      (session.write 1 (lines.flatMap Rehearsal.line)).done 0
  | action :: names =>
      let isReset := action = "-" || names.isEmpty || (number? action).isSome
      let names := if names.isEmpty || (number? action).isSome then action :: names else names
      match names.find? fun name => (signal? name).isNone with
      | some wrong =>
          (session.write 2 (Rehearsal.line ("trap: " ++ wrong ++ ": bad trap"))).done 1
      | none =>
          let names := names.map fun name => signalName ((signal? name).getD 0)
          let others := session.traps.filter fun pair => !names.contains pair.1
          { session.done 0 with
            traps := others ++ if isReset then [] else names.map fun name => (name, action) }

def describe (isBrief : Bool) (session : Session) (words : List String) : Session :=
  let lineOf := fun word : String =>
    if ["if", "then", "else", "elif", "fi", "do", "done", "case", "esac", "while", "until", "for",
        "in", "!", "\x7b", "\x7d"].contains word then
      some (if isBrief then word else word ++ " is a shell keyword")
    else if (session.functions.lookup word).isSome then
      some (if isBrief then word else word ++ " is a shell function")
    else if specials.contains word then
      some (if isBrief then word else word ++ " is a special shell builtin")
    else if builtins.contains word then
      some (if isBrief then word else word ++ " is a shell builtin")
    else if programs.contains word then
      some (if isBrief then "/usr/bin/" ++ word else word ++ " is /usr/bin/" ++ word)
    else none
  let output := words.flatMap fun word =>
    match lineOf word with
    | some text => Rehearsal.line text
    | none => if isBrief then [] else Rehearsal.line (word ++ ": not found")
  (session.write 1 output).done (if words.all fun word => (lineOf word).isSome then 0 else 127)

def wait (session : Session) (words : List String) : Session :=
  let latest := (session.tasks.map (·.millis)).foldl max session.millis
  match words.find? fun word => (number? word).isNone && word ≠ "--" with
  | some wrong => session.fail 2 ("Illegal number: " ++ wrong)
  | none => { session.done (if words.isEmpty then 0 else 127) with millis := latest, tasks := [] }

def killWords (words : List String) : Option Nat × List String :=
  match words with
  | "-s" :: name :: rest => (signal? name, rest)
  | "--" :: rest => (some 15, rest)
  | word :: rest =>
      if word.startsWith "-" then (signal? (word.drop 1).toString, rest) else (some 15, words)
  | [] => (some 15, [])

/-- The session behind a signal to the script itself, without what it runs then. -/
def strike (session : Session) (signal : Nat) : Session :=
  if signal = 0 || ["CHLD", "URG", "WINCH", "CONT"].contains (signalName signal) then session.done 0
  else { session with signal := some signal, status := 128 + signal, flow := .ended }

def listSignals (session : Session) (words : List String) : Session :=
  match words.find? fun word => (number? word).isNone with
  | some wrong => session.fail 2 ("Illegal number: " ++ wrong)
  | none =>
      let names := if words.isEmpty then (signals.drop 1).map (·.2)
        else words.map fun word => signalName (((number? word).getD 0) % 128)
      (session.write 1 (names.flatMap Rehearsal.line)).done 0

/-- Sends a signal; only the script itself can be reached. -/
def kill (session : Session) (words : List String) : Session :=
  if words.head? = some "-l" then session.listSignals words.tail
  else
    match killWords words with
    | (none, _) =>
        let letter := ((words.headD "").toList.drop 1).take 1
        session.fail 2 ("Illegal option -" ++ String.ofList letter)
    | (some _, []) =>
        session.fail 2
          ("Usage: kill [-s sigspec | -signum | -sigspec] [pid | job]... or\nkill -l [exitstatus]")
    | (some signal, targets) =>
        targets.foldl (fun session target =>
          if !session.goesOn then session
          else if target = "1" then session.strike signal
          else if (number? target).isSome then session.fail 1 "No such process\n"
          else session.fail 2 ("Illegal number: " ++ target)) (session.done 0)

def mask (session : Session) (words : List String) : Session :=
  match words with
  | [] => (session.write 1 (Rehearsal.line "0022")).done 0
  | word :: _ =>
      if word.toList.all fun c => '0' ≤ c && c ≤ '7' then session.done 0
      else session.fail 2 ("Illegal mode: " ++ word)

def find (session : Session) (words : List String) : Session :=
  match words.find? fun word => !(builtins ++ programs).contains word with
  | some wrong => session.fail 1 (wrong ++ ": not found")
  | none => session.done 0

/-- Runs a command of the shell whose options are as they should be. -/
def checked? (session : Session) (name : String) (words : List String) : Option Session :=
  match name with
  | "echo" => some (session.echo words)
  | "printf" => some (session.printf words)
  | "true" | ":" | "times" => some (session.done 0)
  | "false" => some (session.done 1)
  | "cd" | "chdir" => some (session.changeDirectory words)
  | "pwd" => some ((session.write 1 (Rehearsal.line session.directory)).done 0)
  | "exit" => some (session.exit words)
  | "return" => some (session.leaveFunction words)
  | "break" => some (session.leaveLoops .leave words)
  | "continue" => some (session.leaveLoops .again words)
  | "shift" => some (session.shift words)
  | "unset" => some (session.unset words)
  | "export" =>
      some (declare (fun session name =>
        { session with exported := name :: session.exported }) session words)
  | "readonly" =>
      some (declare (fun session name =>
        { session with constants := name :: session.constants }) session words)
  | "local" => some (session.declareLocal words)
  | "set" => some (setOptions (words.length + 1) words session)
  | "read" => some (session.read words)
  | "test" => some (session.test words)
  | "[" =>
      some (if words.getLast? = some "]" then session.test words.dropLast
        else session.fail 2 "missing ]")
  | "trap" => some (session.trap words)
  | "type" => some (session.describe false words)
  | "umask" => some (session.mask words)
  | "hash" => some (session.find words)
  | "alias" | "jobs" => some (session.done 0)
  | "wait" => some (session.wait words)
  | "kill" => some (session.kill words)
  | _ => none

/-- Runs a command of the shell, if it is one that runs no other. -/
def builtin? (name : String) (words : List String) (session : Session) : Option Session :=
  match (optionLetters.lookup name).bind fun letters => wrongOption? letters words with
  | some wrong => some (session.refuse name ("Illegal option -" ++ String.singleton wrong))
  | none => session.checked? name words

end Session

end Shell

end Rehearsal

end Toolbench
