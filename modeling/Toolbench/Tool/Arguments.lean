import Toolbench.Decimal.Literal
import Toolbench.Text.Case
import Toolbench.Tool.Definition

/-!
# Preparing arguments

What a model supplies is brought to the declared types: unknown names are
refused, absent parameters take their defaults, loosely typed values are
converted, and the result has to agree with the allowed values.
-/

namespace Toolbench

inductive ArgumentFault where
  | notObject (kind : String)
  | unknown (name : String)
  | missing (name : String)
  | mismatch (name : String) (type : ParamType) (value : Json)
  /-- Parameters in order of their names, each with its value and the allowed ones. -/
  | notAllowed (values : List (String × Json × List Json))

/-- How a value is shown where it does not fit. -/
def describe : Json → String
  | .string text => "string \"" ++ text ++ "\""
  | value => value.kindName ++ " " ++ value.write

def ArgumentFault.message : ArgumentFault → String
  | .notObject kind => "arguments must be a JSON object, got " ++ kind
  | .unknown name => "unknown parameter '" ++ name ++ "'"
  | .missing name => "missing required parameter '" ++ name ++ "'"
  | .mismatch name type value =>
      "parameter '" ++ name ++ "' expects " ++ type.name ++ ", got " ++ describe value
  | .notAllowed values =>
      "; ".intercalate (values.map fun (name, value, allowed) =>
        "/" ++ name ++ ": " ++ value.write ++ " is not one of " ++ (Json.array allowed).write)

/-- A refusal and the tool that it concerns. -/
structure ValidationError where
  tool : String
  fault : ArgumentFault

def ValidationError.message (error : ValidationError) : String :=
  "invalid arguments for tool '" ++ error.tool ++ "': " ++ error.fault.message

namespace ParamType

/-- The integer a real number is, if it has no fraction and is below `2 ^ 63` in size. -/
def wholeNumber? (x : Binary64) : Option WideInt := do
  let value ← x.toInt?
  if value.natAbs < 0x8000000000000000 then WideInt.ofInt? value else none

/-- The integer a text spells, from `-2 ^ 63` to `2 ^ 63 - 1`. -/
def spelledInteger? (text : String) : Option WideInt := do
  let value ← integerText? (Text.trimBlanks text.toList)
  if value < 0x8000000000000000 then WideInt.ofInt? value else none

def spelledNumber? (text : String) : Option Binary64 :=
  match Floating.ofText? (Text.trimBlanks text.toList) with
  | some (.finite value) => some value
  | _ => none

/-- The truth value a text spells, in letters of any case. -/
def spelledBoolean? (text : String) : Option Bool :=
  let word := Text.lower (Text.trim text)
  if word == "true" then some true
  else if word == "false" then some false
  else none

def coerce? : ParamType → Json → Option Json
  | string, .string text => some (.string text)
  | string, .number value => some (.string (Json.numberText value))
  | string, .bool value => some (.string (Json.bool value).write)
  | integer, .number (.integer value) => some (.number (.integer value))
  | integer, .number (.real value) => (wholeNumber? value).map fun n => .number (.integer n)
  | integer, .string text => (spelledInteger? text).map fun n => .number (.integer n)
  | number, .number value => some (.number value)
  | number, .string text => (spelledNumber? text).map fun x => .number (.real x)
  | boolean, .bool value => some (.bool value)
  | boolean, .string text => (spelledBoolean? text).map .bool
  | _, _ => none

end ParamType

namespace Number

/-- Equality as numbers, whether spelled as an integer or not. -/
def equalValue : Number → Number → Bool
  | integer x, integer y => x == y
  | real x, real y => x.sameValue y
  | integer x, real y => y.toInt? == some x.value
  | real x, integer y => x.toInt? == some y.value

end Number

namespace Json

mutual

def equalValue : Json → Json → Bool
  | .null, .null => true
  | .bool a, .bool b => a == b
  | .number a, .number b => a.equalValue b
  | .string a, .string b => a == b
  | .array a, .array b => equalItems a b
  | .object a, .object b => equalMembers a b
  | _, _ => false

def equalItems : List Json → List Json → Bool
  | [], [] => true
  | a :: as, b :: bs => equalValue a b && equalItems as bs
  | _, _ => false

def equalMembers : Members → Members → Bool
  | [], [] => true
  | (k, a) :: as, (l, b) :: bs => k == l && equalValue a b && equalMembers as bs
  | _, _ => false

end

end Json

namespace Tool

/-- The members of an object; `null` has none. -/
def suppliedMembers : Json → Except ArgumentFault Json.Members
  | .object members => .ok members
  | .null => .ok []
  | value => .error (.notObject value.kindName)

/-- The value that counts for a parameter: `null` is as good as none. -/
def supplied? (members : Json.Members) (name : String) : Option Json :=
  (members.find? name).filter fun value => !value.isNull

/-- The value of one parameter, `none` where it stays absent. -/
def argument? (members : Json.Members) (parameter : Parameter) :
    Except ArgumentFault (Option Json) :=
  match supplied? members parameter.name with
  | some value =>
      match parameter.type.coerce? value with
      | some value => .ok (some value)
      | none => .error (.mismatch parameter.name parameter.type value)
  | none =>
      match parameter.default with
      | some value => .ok (some value)
      | none =>
          if parameter.required then .error (.missing parameter.name)
          else .ok none

def collect (members : Json.Members) (arguments : Arguments) :
    List Parameter → Except ArgumentFault Arguments
  | [] => .ok arguments
  | parameter :: rest =>
      match argument? members parameter with
      | .error fault => .error fault
      | .ok (some value) => collect members (arguments.insert parameter.name value) rest
      | .ok none => collect members arguments rest

/-- The arguments that are none of the allowed values, in order of their names. -/
def notAllowed (tool : Tool) (arguments : Arguments) : List (String × Json × List Json) :=
  arguments.filterMap fun (name, value) =>
    match (tool.parameter? name).bind (·.allowed) with
    | some allowed =>
        if allowed.any fun candidate => candidate.equalValue value then none
        else some (name, value, allowed)
    | none => none

/-- The first supplied name that no parameter has. -/
def unknownName? (tool : Tool) (members : Json.Members) : Option String :=
  (members.map (·.1)).find? fun name => (tool.parameter? name).isNone

def prepareArguments (tool : Tool) (raw : Json) : Except ArgumentFault Arguments := do
  let members ← suppliedMembers raw
  match tool.unknownName? members with
  | some name => throw (.unknown name)
  | none => pure ()
  let arguments ← collect members [] tool.parameters
  match tool.notAllowed arguments with
  | [] => pure arguments
  | values => throw (.notAllowed values)

/-- The arguments of a call, or the refusal in the tool's name. -/
def prepare (tool : Tool) (raw : Json) : Except ValidationError Arguments :=
  match tool.prepareArguments raw with
  | .ok arguments => .ok arguments
  | .error fault => .error ⟨tool.name, fault⟩

end Tool

end Toolbench
