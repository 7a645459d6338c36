import Toolbench.Json.Printer
import Toolbench.Template.Name

/-!
# Templates

A template is a text in which `{name}` stands for an argument.  A name in braces
behind a dollar sign is a reference to the environment and no placeholder.
Filling a template is one pass: what is filled in is never looked at again.
-/

namespace Toolbench

abbrev Arguments := Json.Members

inductive Piece where
  | char (c : Char)
  | placeholder (name : List Char)
deriving DecidableEq

namespace Template

/-- The name that a text starts with and the text behind the brace that closes it. -/
def closeName? : List Char → Option (List Char × List Char)
  | [] => none
  | c :: rest =>
      if Name.isStart c then
        match rest.dropWhile Name.isPart with
        | '}' :: behind => some (c :: rest.takeWhile Name.isPart, behind)
        | _ => none
      else none

theorem closeName?_length {text name behind : List Char}
    (h : closeName? text = some (name, behind)) : behind.length < text.length := by
  cases text with
  | nil => simp [closeName?] at h
  | cons c rest =>
      rw [closeName?] at h
      split at h
      · split at h
        · rename_i tail heq
          have hlen := (List.dropWhile_sublist Name.isPart (l := rest)).length_le
          rw [heq] at hlen
          simp only [Option.some.injEq, Prod.mk.injEq] at h
          obtain ⟨_, rfl⟩ := h
          simp only [List.length_cons] at hlen ⊢
          omega
        · simp at h
      · simp at h

/-- The pieces of a text, given whether it stands behind a dollar sign. -/
def piecesFrom (afterDollar : Bool) : List Char → List Piece
  | [] => []
  | c :: rest =>
      if c = '{' ∧ afterDollar = false then
        match _h : closeName? rest with
        | some (name, behind) => .placeholder name :: piecesFrom false behind
        | none => .char c :: piecesFrom false rest
      else .char c :: piecesFrom (c = '$') rest
termination_by text => text.length
decreasing_by
  · have := closeName?_length _h
    simp only [List.length_cons]
    omega
  · simp
  · simp

def pieces (template : String) : List Piece :=
  piecesFrom false template.toList

def placeholder? : Piece → Option String
  | .char _ => none
  | .placeholder name => some (String.ofList name)

/-- The names of the placeholders, in order of appearance. -/
def placeholders (template : String) : List String :=
  (pieces template).filterMap placeholder?

/-- The name of the placeholder that is the whole template. -/
def sole? (template : String) : Option String :=
  match pieces template with
  | [.placeholder name] => some (String.ofList name)
  | _ => none

def spelling : Piece → List Char
  | .char c => [c]
  | .placeholder name => '{' :: name ++ ['}']

/--
Fills the placeholders by what `encode` makes of the template before them and of
their argument.  `seen` is the template before the pieces, last character first.
-/
def fillPieces {m : Type → Type} [Monad m]
    (encode : List Char → Option Json → m (List Char)) (arguments : Arguments) :
    List Char → List Piece → m (List Char)
  | _, [] => pure []
  | seen, .char c :: rest => do
      let text ← fillPieces encode arguments (c :: seen) rest
      pure (c :: text)
  | seen, .placeholder name :: rest => do
      let image ← encode seen.reverse (arguments.find? (String.ofList name))
      let text ←
        fillPieces encode arguments ((spelling (.placeholder name)).reverse ++ seen) rest
      pure (image ++ text)

def renderWith {m : Type → Type} [Monad m]
    (encode : List Char → Option Json → m (List Char)) (template : String)
    (arguments : Arguments) : m String := do
  let text ← fillPieces encode arguments [] (pieces template)
  pure (String.ofList text)

/-- A value as plain text: strings as they are, `null` as nothing, all else as JSON. -/
def valueText : Json → List Char
  | .string text => text.toList
  | .null => []
  | value => value.writeChars

/-- The plain text of an argument, nothing if it is absent. -/
def argumentText : Option Json → List Char
  | some value => valueText value
  | none => []

/-- Fills a template by the plain texts of the arguments. -/
def render (template : String) (arguments : Arguments) : String :=
  renderWith (m := Id) (fun _ value => argumentText value) template arguments

end Template

end Toolbench
