import Toolbench.Environment.Basic
import Toolbench.Registry.Catalog
import Toolbench.Script.Loading

/-!
# Reports

What the program shows: its exit code and the text of its two outputs, with colours
where they are asked for.
-/

namespace Toolbench

namespace Cli

inductive Style where
  | red
  | green
  | yellow
  | cyan
  | dimmed
  | boldGreen
deriving DecidableEq

def Style.codes : Style → String
  | red => "31"
  | green => "32"
  | yellow => "33"
  | cyan => "36"
  | dimmed => "2"
  | boldGreen => "1;32"

/-- How text is made to stand out. -/
abbrev Paint := Style → String → String

namespace Paint

def plain : Paint :=
  fun _ text => text

def coloured : Paint :=
  fun style text => "\x1b[" ++ style.codes ++ "m" ++ text ++ "\x1b[0m"

/-- Colours are shown where a variable asks for them, as the outputs may be no terminal. -/
def ofEnvironment (environment : Environment) : Paint :=
  if (environment.get? "CLICOLOR_FORCE").any (· ≠ "0") then coloured else plain

end Paint

/-- Lines of text, each of them ended. -/
def ofLines (lines : List String) : String :=
  String.join (lines.map (· ++ "\n"))

structure Report where
  code : Nat := 0
  stdout : String := ""
  stderr : String := ""
deriving DecidableEq

namespace Report

def failure (paint : Paint) (reason : String) : Report where
  code := 1
  stderr := ofLines [paint .red "Error:" ++ " " ++ reason]

def parameterLine (paint : Paint) (parameter : Parameter) : String :=
  let marker :=
    if parameter.isDemanded then paint .red "required" else paint .dimmed "optional"
  let default :=
    match parameter.default with
    | some value => " default=" ++ value.write
    | none => ""
  let description :=
    if parameter.description = "" then "" else " - " ++ parameter.description
  "    " ++ paint .cyan parameter.name ++ " (" ++ parameter.type.name ++ ", " ++ marker ++ ")" ++
    default ++ description

def toolLines (paint : Paint) (tool : Tool) : List String :=
  (paint .boldGreen tool.name ++ " " ++ paint .dimmed ("[" ++ tool.handler.kindName ++ "]") ++
    " " ++ tool.description) :: tool.parameters.map (parameterLine paint)

/-- The tools of a catalog, and how many there are. -/
def catalog (paint : Paint) (catalog : Catalog) : Report :=
  if catalog.tools.isEmpty then
    { stdout := ofLines [paint .yellow "No tools registered."] }
  else
    { stdout := ofLines (catalog.tools.flatMap (toolLines paint) ++
        ["", paint .dimmed (toString catalog.size ++ " tools")]) }

/-- What a load did: a line on each failure, and the summary. -/
def summary (paint : Paint) (summary : Script.LoadSummary) : Report :=
  let mark := if summary.isClean then paint .green "✓" else paint .yellow "!"
  { code := if summary.isClean then 0 else 1
    stdout := ofLines [mark ++ " " ++ summary.line]
    stderr := ofLines (summary.failures.map fun failure =>
      paint .red "✗" ++ " " ++ failure.fault.message) }

/-- The answer of the model; its last line is ended if it is not yet. -/
def answer (text : String) : Report :=
  { stdout := if text.toList.getLast? = some '\n' then text else text ++ "\n" }

def turnLimit (paint : Paint) (turns : Nat) : Report where
  code := 1
  stderr := ofLines [paint .yellow ("Stopped after " ++ toString turns ++
    " turns without a final answer. Raise --max-turns to let the model continue.")]

/-- A prompt without a cluster that it is about. -/
def noCluster (paint : Paint) : Report where
  code := 1
  stderr := ofLines [paint .red "No cluster selected.",
    paint .dimmed ("Pass --cluster <name>, set TOOLSMITH_CLUSTER, or add \x60cluster:\x60 " ++
      "to your config file.")]

end Report

end Cli

end Toolbench
