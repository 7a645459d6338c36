import Toolbench.Decimal.Layout
import Toolbench.Decode.Mismatch
import Toolbench.Json.Basic

/-!
# Reading values from JSON

Readers of the values that JSON values stand for.  A record is an object, whose
members are read in their order, or an array of the fields in the order of their
declaration.
-/

namespace Toolbench

namespace Json

open Decode

def wording : Wording := ⟨"null", Binary64.shortText⟩

def found : Json → Found
  | .null => .unit
  | .bool value => .bool value
  | .number (.integer value) => .integer value.value
  | .number (.real value) => .real (.finite value)
  | .string text => .string text
  | .array _ => .sequence
  | .object _ => .map

abbrev Decoder (α : Type) := Json → Except Mismatch α

namespace Decoder

def string : Decoder String
  | .string text => .ok text
  | value => .error (.type value.found "a string")

def optional {α : Type} (decoder : Decoder α) : Decoder (Option α)
  | .null => .ok none
  | value => (decoder value).map some

def list {α : Type} (decoder : Decoder α) : Decoder (List α)
  | .array items => items.mapM decoder
  | value => .error (.type value.found "a sequence")

/-- The word of a variant, alone or in front of `null` in an object. -/
def variant {α : Type} (known : List String) (ofName? : String → Option α) : Decoder α :=
  let named := fun (word : String) =>
    match ofName? word with
    | some value => Except.ok value
    | none => .error (.unknownVariant word known)
  fun
  | .string word => named word
  | .object [(word, value)] => do
      let variant ← named word
      if value.isNull then .ok variant else .error (.type value.found "unit")
  | .object _ => .error (.value .map "map with a single key")
  | value => .error (.type value.found "string or map")

/-- What a record is called, and its fields in the order of their declaration. -/
structure RecordKind where
  expected : String
  fields : List String
  /-- The fields that an array may lack. -/
  defaulted : List String := []

def RecordKind.sized (kind : RecordKind) : String :=
  kind.expected ++ " with " ++ toString kind.fields.length ++
    if kind.fields.length = 1 then " element" else " elements"

/-- Reads the members that are fields; others are passed over. -/
def recordMembers {σ : Type} (kind : RecordKind) (read : String → σ → Decoder σ) :
    σ → Members → Except Mismatch σ
  | state, [] => .ok state
  | state, (key, value) :: rest =>
      if kind.fields.contains key then do
        let state ← read key state value
        recordMembers kind read state rest
      else recordMembers kind read state rest

def recordItems {σ : Type} (kind : RecordKind) (read : String → σ → Decoder σ) (count : Nat) :
    Nat → List String → σ → List Json → Except Mismatch σ
  | _, [], state, [] => .ok state
  | _, [], _, _ :: _ => .error (.length count "fewer elements in array")
  | position, field :: fields, state, [] =>
      if kind.defaulted.contains field then
        recordItems kind read count (position + 1) fields state []
      else .error (.length position kind.sized)
  | position, field :: fields, state, item :: items => do
      let state ← read field state item
      recordItems kind read count (position + 1) fields state items

def record {σ : Type} (kind : RecordKind) (read : String → σ → Decoder σ) (start : σ) :
    Decoder σ
  | .object members => recordMembers kind read start members
  | .array items => recordItems kind read items.length 0 kind.fields start items
  | value => .error (.type value.found kind.expected)

def demanded {α : Type} (name : String) : Option α → Except Mismatch α
  | some value => .ok value
  | none => .error (.missingField name)

end Decoder

end Json

end Toolbench
