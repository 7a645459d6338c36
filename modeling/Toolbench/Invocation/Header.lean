/-!
# Request lines and headers

Which methods, header names and header values a request may have, and a collection
of headers with one value for each name.
-/

namespace Toolbench

namespace Header

def isTokenChar (c : Char) : Bool :=
  c.isAlphanum || "!#$%&'*+-.^_\x60|~".toList.contains c

/-- Whether a text is a method or a header name. -/
def isToken (text : String) : Bool :=
  !text.isEmpty && text.toList.all isTokenChar

def nameLimit : Nat := 65535

def name? (text : String) : Option String :=
  if isToken text && text.length ≤ nameLimit then
    some (String.ofList (text.toList.map Char.toLower))
  else none

/-- The characters of header values: tabs, and all that are no ASCII controls. -/
def isValueChar (c : Char) : Bool :=
  c = '\t' || (0x20 ≤ c.toNat && c.toNat != 0x7F)

def isValue (text : String) : Bool :=
  text.toList.all isValueChar

end Header

/-- Header values by name, in ascending order of the names. -/
abbrev Headers := List (String × String)

namespace Headers

def set (name value : String) : Headers → Headers
  | [] => [(name, value)]
  | (k, v) :: rest =>
      if k = name then (name, value) :: rest
      else if name < k then (name, value) :: (k, v) :: rest
      else (k, v) :: set name value rest

def has (headers : Headers) (name : String) : Bool :=
  (headers.lookup name).isSome

end Headers

end Toolbench
