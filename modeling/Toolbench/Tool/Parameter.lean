import Toolbench.Json.Printer
import Toolbench.Template.Name

/-!
# Parameters

The typed parameters of a tool, what is wrong with a parameter that cannot be
declared, and the schema that a model sees of it.
-/

namespace Toolbench

inductive ParamType where
  | string
  | integer
  | number
  | boolean
deriving DecidableEq

namespace ParamType

def name : ParamType → String
  | .string => "string"
  | .integer => "integer"
  | .number => "number"
  | .boolean => "boolean"

/-- The types in the order in which messages list them. -/
def all : List ParamType :=
  [string, integer, number, boolean]

def ofName? (word : String) : Option ParamType :=
  all.find? fun type => type.name == word

/-- Whether a value has the type as it stands. -/
def admits : ParamType → Json → Bool
  | string, .string _ => true
  | integer, .number (.integer _) => true
  | number, .number _ => true
  | boolean, .bool _ => true
  | _, _ => false

end ParamType

structure Parameter where
  name : String
  type : ParamType := .string
  required : Bool := false
  default : Option Json := none
  description : String := ""
  /-- The values that the parameter may have, if only some. -/
  allowed : Option (List Json) := none

namespace Parameter

inductive Fault where
  | invalidName (name : String)
  | defaultType (name : String) (type : ParamType) (value : Json)
  | noAllowed (name : String)
  | allowedType (name : String) (type : ParamType) (value : Json)
  | defaultNotAllowed (name : String) (value : Json)

def Fault.message : Fault → String
  | .invalidName name => "invalid parameter name '" ++ name ++ "'"
  | .defaultType name type value =>
      "default for parameter '" ++ name ++ "' must be of type " ++ type.name ++ ", got " ++
        value.write
  | .noAllowed name => "enum for parameter '" ++ name ++ "' is empty"
  | .allowedType name type value =>
      "enum value " ++ value.write ++ " for parameter '" ++ name ++ "' is not of type " ++
        type.name
  | .defaultNotAllowed name value =>
      "default " ++ value.write ++ " for parameter '" ++ name ++ "' is not one of its enum values"

def holds (values : List Json) (value : Json) : Bool :=
  values.any fun candidate => candidate.same value

/-- Checks the name, the default and the allowed values, in this order. -/
def check (parameter : Parameter) : Except Fault Unit := do
  if !Name.isIdentifier parameter.name.toList then
    throw (.invalidName parameter.name)
  match parameter.default with
  | some value =>
      if !parameter.type.admits value then
        throw (.defaultType parameter.name parameter.type value)
  | none => pure ()
  match parameter.allowed with
  | none => pure ()
  | some [] => throw (.noAllowed parameter.name)
  | some values =>
      match values.find? fun value => !parameter.type.admits value with
      | some value => throw (.allowedType parameter.name parameter.type value)
      | none => pure ()
      match parameter.default with
      | some value =>
          if !holds values value then
            throw (.defaultNotAllowed parameter.name value)
      | none => pure ()

def schema (parameter : Parameter) : Json :=
  .ofMembers (
    [("type", .string parameter.type.name)] ++
    (if parameter.description == "" then []
      else [("description", .string parameter.description)]) ++
    (match parameter.default with
      | some value => [("default", value)]
      | none => []) ++
    (match parameter.allowed with
      | some values => [("enum", .array values)]
      | none => []))

/-- Whether a call has to supply the parameter. -/
def isDemanded (parameter : Parameter) : Bool :=
  parameter.required && parameter.default.isNone

end Parameter

end Toolbench
