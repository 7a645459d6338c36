import Toolbench.Decimal.Binary64

/-!
# JSON values

Numbers keep the difference between integers and floating-point numbers, and an
object is a list of members that the operations here keep in ascending order of
their keys.
-/

namespace Toolbench

/-- The integers from `-2 ^ 63` to `2 ^ 64 - 1`. -/
structure WideInt where
  value : Int
  lower : -0x8000000000000000 ≤ value
  upper : value < 0x10000000000000000
deriving DecidableEq

namespace WideInt

def ofInt? (value : Int) : Option WideInt :=
  if h : -0x8000000000000000 ≤ value ∧ value < 0x10000000000000000 then some ⟨value, h.1, h.2⟩ else none

end WideInt

/-- A number as JSON text spells it: as an integer, or with a point or an exponent. -/
inductive Number where
  | integer (value : WideInt)
  | real (value : Binary64)
deriving DecidableEq

inductive Json where
  | null
  | bool (value : Bool)
  | number (value : Number)
  | string (value : String)
  | array (items : List Json)
  | object (members : List (String × Json))

namespace Number

/-- Equality of numbers of one kind; an integer never equals a real number. -/
def same : Number → Number → Bool
  | .integer x, .integer y => x == y
  | .real x, .real y => x.sameValue y
  | _, _ => false

end Number

namespace Json

instance : Inhabited Json := ⟨.null⟩

abbrev Members := List (String × Json)

/-- A natural number below `2 ^ 64` as a value; larger ones are cut to their remainder. -/
def ofNat (n : Nat) : Json :=
  .number (.integer ⟨((n % 0x10000000000000000 : Nat) : Int), by omega, by omega⟩)

namespace Members

def find? (key : String) : Members → Option Json
  | [] => none
  | (k, v) :: rest => if k = key then some v else find? key rest

/-- Sets the value under a key; a new key goes before the first greater one. -/
def insert (key : String) (value : Json) : Members → Members
  | [] => [(key, value)]
  | (k, v) :: rest =>
      if k = key then (key, value) :: rest
      else if key < k then (key, value) :: (k, v) :: rest
      else (k, v) :: insert key value rest

/-- The members of a list of pairs, of which the last one for a key counts. -/
def ofList (pairs : List (String × Json)) : Members :=
  pairs.foldl (fun members pair => insert pair.1 pair.2 members) []

end Members

def ofMembers (pairs : List (String × Json)) : Json :=
  .object (Members.ofList pairs)

/-- The member of an object, `none` also for values that are no objects. -/
def get? (key : String) : Json → Option Json
  | .object members => Members.find? key members
  | _ => none

def string? : Json → Option String
  | .string text => some text
  | _ => none

def items? : Json → Option (List Json)
  | .array items => some items
  | _ => none

def isNull : Json → Bool
  | .null => true
  | _ => false

def kindName : Json → String
  | .null => "null"
  | .bool _ => "boolean"
  | .number _ => "number"
  | .string _ => "string"
  | .array _ => "array"
  | .object _ => "object"

mutual

/-- Equality of values: strings by their characters, numbers within one kind. -/
def same : Json → Json → Bool
  | .null, .null => true
  | .bool a, .bool b => a == b
  | .number a, .number b => a.same b
  | .string a, .string b => a == b
  | .array a, .array b => sameItems a b
  | .object a, .object b => sameMembers a b
  | _, _ => false

def sameItems : List Json → List Json → Bool
  | [], [] => true
  | a :: as, b :: bs => same a b && sameItems as bs
  | _, _ => false

def sameMembers : Members → Members → Bool
  | [], [] => true
  | (k, a) :: as, (l, b) :: bs => k == l && same a b && sameMembers as bs
  | _, _ => false

end

end Json

end Toolbench
