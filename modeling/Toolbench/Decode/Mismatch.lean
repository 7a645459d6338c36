import Toolbench.Decimal.Literal
import Toolbench.Text.Quoted

/-!
# Values of the wrong shape

How a value in a document differs from what is read there, in one wording for
all document formats.  What is particular to a format is its `Wording`.
-/

namespace Toolbench

namespace Decode

inductive Found where
  | unit
  | bool (value : Bool)
  | integer (value : Int)
  | wideInteger (value : Int)
  | real (value : Floating)
  | string (text : String)
  | sequence
  | map
  | enum

/-- How a format names what others spell differently. -/
structure Wording where
  unit : String
  real : Binary64 → String

def Found.text (wording : Wording) : Found → String
  | .unit => wording.unit
  | .bool value => "boolean `" ++ (if value then "true" else "false") ++ "`"
  | .integer value => "integer `" ++ toString value ++ "`"
  | .wideInteger value =>
      "integer `" ++ toString value ++ (if value < 0 then "` as i128" else "` as u128")
  | .real (.finite value) => "floating point `" ++ wording.real value ++ "`"
  | .real special => "floating point `" ++ special.specialText ++ "`"
  | .string text => "string " ++ Text.quoted text
  | .sequence => "sequence"
  | .map => "map"
  | .enum => "enum"

inductive Mismatch where
  | type (found : Found) (expected : String)
  | value (found : Found) (expected : String)
  | length (count : Nat) (expected : String)
  | unknownVariant (word : String) (known : List String)
  | unknownField (name : String) (known : List String)
  | missingField (name : String)
  | duplicateField (name : String)
  | noVariant (union : String)
  | taggedUnion
  | numberOutOfRange

def ticked (word : String) : String :=
  "`" ++ word ++ "`"

def oneOf : List String → String
  | [only] => ticked only
  | [first, second] => ticked first ++ " or " ++ ticked second
  | words => "one of " ++ ", ".intercalate (words.map ticked)

def Mismatch.message (wording : Wording) : Mismatch → String
  | type found expected => "invalid type: " ++ found.text wording ++ ", expected " ++ expected
  | value found expected => "invalid value: " ++ found.text wording ++ ", expected " ++ expected
  | length count expected =>
      "invalid length " ++ toString count ++ ", expected " ++ expected
  | unknownVariant word known =>
      "unknown variant " ++ ticked word ++ ", expected " ++ oneOf known
  | unknownField name known =>
      "unknown field " ++ ticked name ++ ", expected " ++ oneOf known
  | missingField name => "missing field " ++ ticked name
  | duplicateField name => "duplicate field " ++ ticked name
  | noVariant union => "data did not match any variant of untagged enum " ++ union
  | taggedUnion => "untagged and internally tagged enums do not support enum input"
  | numberOutOfRange => "JSON number out of range"

end Decode

end Toolbench
