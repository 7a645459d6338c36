/-!
# Environments

Named variables, and expanding references to them.  A reference is a name in braces
behind a dollar sign; one to a variable that is not set stays as it is written.
Expansion is one pass: values are never looked at again.
-/

namespace Toolbench

abbrev Environment := List (String × String)

namespace Environment

def isName (name : String) : Bool :=
  !name.isEmpty && name.toList.all fun c => c != '=' && c.toNat != 0

def get? (environment : Environment) (name : String) : Option String :=
  if isName name then environment.lookup name else none

/-- A piece of a text: a character, or a reference to a variable. -/
inductive Piece where
  | char (c : Char)
  | reference (name : List Char)
deriving DecidableEq

/-- The pieces of a text.  The name of a reference is not empty and holds no closing brace. -/
def pieces : List Char → List Piece
  | [] => []
  | '$' :: '{' :: rest =>
      match _h : rest.dropWhile (· != '}') with
      | _ :: behind =>
          if rest.head? = some '}' then .char '$' :: pieces ('{' :: rest)
          else .reference (rest.takeWhile (· != '}')) :: pieces behind
      | [] => .char '$' :: pieces ('{' :: rest)
  | c :: rest => .char c :: pieces rest
termination_by text => text.length
decreasing_by
  · simp
  · have hlen := (List.dropWhile_sublist (· != '}') (l := rest)).length_le
    simp only [_h, List.length_cons] at hlen ⊢
    omega
  · simp
  · simp

def expandPiece (environment : Environment) : Piece → List Char
  | .char c => [c]
  | .reference name =>
      match environment.get? (String.ofList name) with
      | some value => value.toList
      | none => '$' :: '{' :: name ++ ['}']

/-- A text with the values of the variables that it refers to. -/
def expand (environment : Environment) (text : String) : String :=
  String.ofList ((pieces text.toList).flatMap (expandPiece environment))

def expandAll (environment : Environment) (texts : List (String × String)) :
    List (String × String) :=
  texts.map fun (name, text) => (name, environment.expand text)

/-- The environment with some more variables, which hide those of the same name. -/
def extend (environment : Environment) (added : List (String × String)) : Environment :=
  added ++ environment

end Environment

end Toolbench
