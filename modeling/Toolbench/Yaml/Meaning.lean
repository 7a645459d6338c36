import Toolbench.Decode.Mismatch
import Toolbench.Text.Hex
import Toolbench.Yaml.Node

/-!
# The meaning of YAML scalars

Which plain texts are `null`, truth values and numbers, and what a tag makes of a
text.  Digits behind a leading zero are no number.
-/

namespace Toolbench

namespace Yaml

inductive Meaning where
  | null
  | bool (value : Bool)
  /-- An integer from `-2 ^ 63` to `2 ^ 64 - 1`. -/
  | integer (value : Int)
  /-- An integer of up to 128 bits that is not in that range. -/
  | wideInteger (value : Int)
  | real (value : Floating)
  | string (value : String)

namespace Meaning

def isNullText (text : String) : Bool :=
  ["null", "Null", "NULL", "~"].contains text

def bool? (text : String) : Option Bool :=
  if ["true", "True", "TRUE"].contains text then some true
  else if ["false", "False", "FALSE"].contains text then some false
  else none

def digit? (base : Nat) (c : Char) : Option Nat :=
  (Text.Hex.value? c).filter (· < base)

def natural? (base : Nat) (text : List Char) : Option Nat :=
  if text.isEmpty then none
  else text.foldlM (fun value c => (digit? base c).map (value * base + ·)) 0

def dropSign : List Char → List Char
  | '+' :: rest => rest
  | '-' :: rest => rest
  | text => text

/-- Whether a text is digits behind a leading zero. -/
def isPaddedDigits (text : List Char) : Bool :=
  match dropSign text with
  | '0' :: rest => !rest.isEmpty && rest.all Char.isDigit
  | _ => false

/-- The value of digits in the base that their first two characters name. -/
def basedNatural? : List Char → Option Nat
  | '0' :: 'x' :: rest => natural? 16 rest
  | '0' :: 'o' :: rest => natural? 8 rest
  | '0' :: 'b' :: rest => natural? 2 rest
  | _ => none

/-- The value of an unsigned integer, in any of the four bases. -/
def unsigned? (text : List Char) : Option Nat :=
  let digits := match text with
    | '+' :: rest => rest
    | text => text
  match basedNatural? digits with
  | some value => some value
  | none => if isPaddedDigits text then none else natural? 10 digits

def negative? : List Char → Option Int
  | '-' :: digits =>
      match basedNatural? digits with
      | some value => some (-(value : Int))
      | none =>
          if isPaddedDigits digits then none
          else (natural? 10 digits).map fun value => -(value : Int)
  | _ => none

/-- The integer that a text stands for, if it has at most 128 bits. -/
def integer? (text : List Char) : Option Meaning :=
  match unsigned? text with
  | some value =>
      if value < 0x10000000000000000 then some (.integer value)
      else if value < 0x100000000000000000000000000000000 then some (.wideInteger value)
      else none
  | none =>
      match negative? text with
      | some value =>
          if -0x8000000000000000 ≤ value then some (.integer value)
          else if -0x80000000000000000000000000000000 ≤ value then some (.wideInteger value)
          else none
      | none => none

def word64? (text : List Char) : Option Nat :=
  (unsigned? text).filter (· < 0x10000000000000000)

def special? (text : String) : Option Floating :=
  if [".inf", ".Inf", ".INF", "+.inf", "+.Inf", "+.INF"].contains text then
    some (.infinite false)
  else if ["-.inf", "-.Inf", "-.INF"].contains text then some (.infinite true)
  else if [".nan", ".NaN", ".NAN"].contains text then some .notANumber
  else none

def real? (text : String) : Option Floating :=
  match special? text with
  | some value => some value
  | none =>
      match Floating.ofText? text.toList with
      | some (.finite value) => some (.finite value)
      | _ => none

/-- The meaning of a plain scalar without a tag. -/
def ofPlain (text : String) : Meaning :=
  if text.isEmpty || isNullText text then .null
  else
    match bool? text with
    | some value => .bool value
    | none =>
        match integer? text.toList with
        | some meaning => meaning
        | none =>
            match if isPaddedDigits text.toList then none else real? text with
            | some value => .real value
            | none => .string text

def found : Meaning → Decode.Found
  | null => .unit
  | bool value => .bool value
  | integer value => .integer value
  | wideInteger value => .wideInteger value
  | real value => .real value
  | string value => .string value

end Meaning

def standardTag (name : String) : Tag :=
  Text.Utf8.encode ("tag:yaml.org,2002:" ++ name)

/-- Whether a tag is one of the document's own: it starts with an exclamation mark. -/
def isOwnTag (tag : Tag) : Bool :=
  tag.head? = some 0x21

/--
The name of a variant that a tag of the document's own gives: the text behind the
exclamation mark, or the mark if it is alone.
-/
def variantTag? (tag : Option Tag) : Option String :=
  match tag with
  | some [0x21] => some "!"
  | some (0x21 :: name) => Text.Utf8.decode? name
  | _ => none

def demand (text expected : String) (meaning : Option Meaning) :
    Except Decode.Mismatch Meaning :=
  match meaning with
  | some meaning => .ok meaning
  | none => .error (.value (.string text) expected)

def meaning (tag : Option Tag) (style : ScalarStyle) (text : String) :
    Except Decode.Mismatch Meaning :=
  let natural := if style = .plain then Meaning.ofPlain text else .string text
  match tag with
  | none => .ok natural
  | some tag =>
      if tag = standardTag "bool" then
        demand text "a boolean" ((Meaning.bool? text).map .bool)
      else if tag = standardTag "int" then
        demand text "an integer" (Meaning.integer? text.toList)
      else if tag = standardTag "float" then
        demand text "a float" ((Meaning.real? text).map .real)
      else if tag = standardTag "null" then
        demand text "null" (if Meaning.isNullText text then some .null else none)
      else if isOwnTag tag then .ok natural
      else .ok (.string text)

end Yaml

end Toolbench
