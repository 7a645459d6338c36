import Toolbench.Rehearsal.Format
import Toolbench.Rehearsal.Listing
import Toolbench.Rehearsal.Place

/-!
# Rehearsed programs

A handful of standard programs as functions from their arguments and their input to
their output.  None of them looks at the machine it runs on.
-/

namespace Toolbench

namespace Rehearsal

open Text (Bytes)

/-- How a program ends; without a code if a signal ends it. -/
structure Ending where
  code : Option Nat := some 0
  stdout : Bytes := []
  stderr : Bytes := []
  /-- How long it takes. -/
  millis : Nat := 0

structure Call where
  /-- The name that it is called by, which its complaints start with. -/
  name : String
  words : List String
  input : Bytes := []
  directory : String
  /-- The files that are there, by the names that lead to them. -/
  files : List (String × Bytes) := []

def line (text : String) : Bytes :=
  Text.Utf8.encode (text ++ "\n")

namespace Call

def complaint (call : Call) (text : String) : Bytes :=
  line (call.name ++ ": " ++ text)

/-- An ending with a complaint, and a hint where to find help. -/
def misuse (call : Call) (text : String) : Ending :=
  { code := some 1
    stderr := call.complaint text ++
      line ("Try '" ++ call.name ++ " --help' for more information.") }

end Call

def isEchoOption (word : String) : Bool :=
  match word.toList with
  | '-' :: letters => !letters.isEmpty && letters.all fun c => c = 'n' || c = 'e' || c = 'E'
  | _ => false

def lastOption (letters : List Char) (options : List String) : Option Char :=
  (options.flatMap String.toList).reverse.find? letters.contains

/-- Writes words between single spaces, and a line break unless an option asks for none. -/
def echo (call : Call) : Ending :=
  let options := call.words.takeWhile isEchoOption
  let text := " ".intercalate (call.words.dropWhile isEchoOption)
  let (body, stop) :=
    if lastOption ['e', 'E'] options = some 'e' then
      Format.unescape { name := call.name } .echo text
    else (Text.Utf8.encode text, none)
  let isOpen := (lastOption ['n'] options).isSome || stop.isSome
  { stdout := if isOpen then body else body ++ [0x0A] }

def printf (call : Call) : Ending :=
  match if call.words.head? = some "--" then call.words.tail else call.words with
  | [] => call.misuse "missing operand"
  | format :: arguments =>
      let printing := Format.print { name := call.name } format arguments
      { code := some printing.code
        stdout := printing.output
        stderr := printing.complaints.flatMap call.complaint }

/-- The content of a file, or the complaint that it is none. -/
def Call.content (call : Call) (file : String) : Except String Bytes :=
  if file = "-" || file = "/dev/stdin" then .ok call.input
  else
    match call.files.lookup file with
    | some content => .ok content
    | none =>
        if file = "/dev/null" then .ok []
        else if isDirectory (resolve call.directory file) then
          .error (Quoting.shellQuote [':'] file ++ ": Is a directory")
        else .error (Quoting.shellQuote [':'] file ++ ": No such file or directory")

/-- The options in front of the names of files and among them, and the names. -/
def listing? (call : Call) : List String → Listing → Except Ending (Listing × List String)
  | [], listing => .ok (listing, [])
  | word :: rest, listing =>
      match word.toList with
      | ['-', '-'] => .ok (listing, rest)
      | '-' :: '-' :: _ =>
          match Listing.longNames.lookup word with
          | some letter => listing? call rest ((listing.add? letter).getD listing)
          | none => .error (call.misuse ("unrecognized option '" ++ word ++ "'"))
      | '-' :: letter :: letters =>
          match (letter :: letters).find? fun c => (listing.add? c).isNone with
          | some wrong =>
              .error (call.misuse ("invalid option -- '" ++ String.singleton wrong ++ "'"))
          | none =>
              listing? call rest ((letter :: letters).foldl
                (fun listing c => (listing.add? c).getD listing) listing)
      | _ => (listing? call rest listing).map fun (listing, files) => (listing, word :: files)

/-- Copies files, or its input where none are named. -/
def cat (call : Call) : Ending :=
  match listing? call call.words {} with
  | .error ending => ending
  | .ok (listing, files) =>
      let results := (if files.isEmpty then ["-"] else files).map call.content
      { code := some (if results.all Except.isOk then 0 else 1)
        stdout := listing.show_ (results.flatMap fun result => result.toOption.getD [])
        stderr := results.flatMap fun result =>
          match result with
          | .ok _ => []
          | .error text => call.complaint text }

def units : List (List Char × Nat) :=
  [([], 1), (['s'], 1), (['m'], 60), (['h'], 3600), (['d'], 86400)]

def ages : Nat := 1000000000000000

def millis? (text : String) : Option Nat :=
  let read := readReal text.toList
  if !read.found then none
  else
    match read.value, units.lookup read.rest with
    | .ratio false num den, some unit => some (num * unit * 1000 / den)
    | .infinite false, some _ => some ages
    | _, _ => none

def sleep (call : Call) : Ending :=
  match call.words with
  | [] => call.misuse "missing operand"
  | words =>
      match words.find? fun word => word.startsWith "-" with
      | some word =>
          call.misuse ("invalid option -- '" ++ String.ofList ((word.toList.drop 1).take 1) ++ "'")
      | none =>
          match words.filter fun word => (millis? word).isNone with
          | [] => { millis := (words.filterMap millis?).foldl (· + ·) 0 }
          | wrong =>
              let last := wrong.getLast?.getD ""
              let ending := call.misuse ("invalid time interval " ++ Quoting.quote last)
              let before := wrong.dropLast.flatMap fun word =>
                call.complaint ("invalid time interval " ++ Quoting.quote word)
              { ending with stderr := before ++ ending.stderr }

def pwd (call : Call) : Ending :=
  { stdout := line call.directory
    stderr := if !call.words.all ["-L", "-P", "--"].contains then
      call.complaint "ignoring non-option arguments" else [] }

def Call.ending? (call : Call) : Option Ending :=
  match programName call.name with
  | "echo" => some (echo call)
  | "printf" => some (printf call)
  | "true" => some {}
  | "false" => some { code := some 1 }
  | "cat" => some (cat call)
  | "pwd" => some (pwd call)
  | "sleep" => some (sleep call)
  | _ => none

end Rehearsal

end Toolbench
