import Toolbench.Invocation.Body
import Toolbench.Proofs.Invocation.Placement
import Toolbench.Proofs.Json.Members
import Toolbench.Proofs.Json.Writing
import Toolbench.Proofs.Template.Weaving

/-!
# Filled documents

Filling a body is a run of the scanner for quotes over its template. The scanner is outside
string literals behind every part of a document, and inside behind every fragment of a string
literal, so each part is filled as one lexeme.
-/

namespace Toolbench

namespace Body

open Template (spelling fillPieces argumentText)
open Json (Glyph Atom Lexeme Token tokensOf textOf Replaces scalarToken?)

/-! ## The scanner for quotes -/

/-- Where the template ends behind some more of its pieces. -/
def advance (state : Quoting) (pieces : List Piece) : Quoting :=
  (pieces.flatMap spelling).foldl Quoting.step state

/-- What an argument becomes at a place in the template. -/
def imageIn (state : Quoting) (value : Option Json) : List Char :=
  if state = .outside then (value.getD .null).writeChars
  else Json.escapeChars (argumentText value)

/-- The text of filled pieces, given where the template before them ends. -/
def fill (arguments : Arguments) : Quoting → List Piece → List Char
  | _, [] => []
  | state, .char c :: rest => c :: fill arguments (state.step c) rest
  | state, .placeholder name :: rest =>
      imageIn state (arguments.find? (String.ofList name)) ++
        fill arguments (advance state [.placeholder name]) rest

theorem fillPieces_eq_fill (arguments : Arguments) (seen : List Char) (pieces : List Piece) :
    fillPieces (m := Id) jsonImage arguments seen pieces =
      fill arguments (seen.reverse.foldl Quoting.step .outside) pieces := by
  induction pieces generalizing seen with
  | nil => rfl
  | cons piece rest ih =>
      cases piece with
      | char c =>
          have hstate : (c :: seen).reverse.foldl Quoting.step .outside =
              (seen.reverse.foldl Quoting.step .outside).step c := by
            rw [List.reverse_cons, List.foldl_append]
            rfl
          rw [fill, ← hstate, ← ih]
          rfl
      | placeholder name =>
          have hstate : ((spelling (.placeholder name)).reverse ++ seen).reverse.foldl
              Quoting.step .outside =
                advance (seen.reverse.foldl Quoting.step .outside) [.placeholder name] := by
            rw [List.reverse_append, List.reverse_reverse, List.foldl_append, advance]
            simp
          have himage : jsonImage seen.reverse (arguments.find? (String.ofList name)) =
              imageIn (seen.reverse.foldl Quoting.step .outside)
                (arguments.find? (String.ofList name)) := by
            simp [jsonImage, imageIn, endsInString]
          rw [fill, ← hstate, ← ih, ← himage]
          rfl

theorem advance_append (state : Quoting) (left right : List Piece) :
    advance state (left ++ right) = advance (advance state left) right := by
  rw [advance, advance, advance, List.flatMap_append, List.foldl_append]

theorem advance_chars (state : Quoting) (text : List Char) :
    advance state (text.map .char) = text.foldl Quoting.step state := by
  have hspelling : (text.map Piece.char).flatMap spelling = text := by
    induction text with
    | nil => rfl
    | cons c rest ih => simp [spelling, ih]
  rw [advance, hspelling]

theorem fill_append (arguments : Arguments) (state : Quoting) (left right : List Piece) :
    fill arguments state (left ++ right) =
      fill arguments state left ++ fill arguments (advance state left) right := by
  induction left generalizing state with
  | nil => rfl
  | cons piece rest ih =>
      have hadvance : advance state (piece :: rest) = advance (advance state [piece]) rest :=
        advance_append state [piece] rest
      rw [hadvance, List.cons_append]
      cases piece with
      | char c => exact congrArg (c :: ·) (ih (state.step c))
      | placeholder name => rw [fill, fill, ih, List.append_assoc]

theorem fill_chars (arguments : Arguments) (state : Quoting) (text : List Char) :
    fill arguments state (text.map .char) = text := by
  induction text generalizing state with
  | nil => rfl
  | cons c rest ih => rw [List.map_cons, fill, ih]

theorem foldl_step_outside {text : List Char} (hquote : '"' ∉ text) :
    text.foldl Quoting.step .outside = .outside := by
  induction text with
  | nil => rfl
  | cons c rest ih =>
      simp only [List.mem_cons, not_or] at hquote
      rw [List.foldl_cons, Quoting.step, if_neg (Ne.symm hquote.1)]
      exact ih hquote.2

theorem foldl_step_inside {text : List Char} (hquote : '"' ∉ text) (hslash : '\\' ∉ text) :
    text.foldl Quoting.step .inside = .inside := by
  induction text with
  | nil => rfl
  | cons c rest ih =>
      simp only [List.mem_cons, not_or] at hquote hslash
      rw [List.foldl_cons, Quoting.step, if_neg (Ne.symm hslash.1), if_neg (Ne.symm hquote.1)]
      exact ih hquote.2 hslash.2

theorem not_mem_of_code? {digits : List Char} {n : Nat} {c : Char}
    (hcode : Json.code? digits = some n) (hc : Text.Hex.value? c = none) : c ∉ digits := by
  unfold Json.code? at hcode
  split at hcode
  · rename_i first second third fourth
    simp only [Option.bind_eq_bind, Option.bind_eq_some_iff] at hcode
    obtain ⟨_, hfirst, _, hsecond, _, hthird, _, hfourth, -⟩ := hcode
    have hne : ∀ {d : Char} {value : Nat}, Text.Hex.value? d = some value → c ≠ d := by
      rintro d value hd rfl
      rw [hc] at hd
      cases hd
    simp [hne hfirst, hne hsecond, hne hthird, hne hfourth]
  · cases hcode

/-- The scanner is still inside a string literal behind one of its characters. -/
theorem foldl_step_glyph (glyph : Glyph) : glyph.text.foldl Quoting.step .inside = .inside := by
  have hdigits : ∀ (digits : List Char) (n : Nat), Json.code? digits = some n →
      ('\\' :: 'u' :: digits).foldl Quoting.step .inside = .inside := by
    intro digits n hcode
    show digits.foldl Quoting.step .inside = .inside
    exact foldl_step_inside (not_mem_of_code? hcode (by decide))
      (not_mem_of_code? hcode (by decide))
  cases glyph with
  | plain c hplain =>
      simp only [Json.isUnescaped, Bool.and_eq_true, bne_iff_ne] at hplain
      exact foldl_step_inside (by simpa [Glyph.text] using hplain.1.1.symm)
        (by simpa [Glyph.text] using hplain.1.2.symm)
  | short letter c hshort => rfl
  | code digits n hcode hwhole => exact hdigits digits n hcode
  | pair first second high low hfirst hsecond hpair =>
      have htext : (Glyph.pair first second high low hfirst hsecond hpair).text =
          ('\\' :: 'u' :: first) ++ ('\\' :: 'u' :: second) := rfl
      rw [htext, List.foldl_append, hdigits first high hfirst, hdigits second low hsecond]

/-- A placeholder does not move the scanner, unless it stands in an escape sequence. -/
theorem advance_placeholder {state : Quoting} {name : List Char} (hname : Name.isIdentifier name)
    (hstate : state ≠ .escaped) : advance state [.placeholder name] = state := by
  have hquote : '"' ∉ spelling (.placeholder name) := fun hmem =>
    absurd (Template.eq_or_isPart_of_mem_spelling hname hmem) (by decide)
  have hslash : '\\' ∉ spelling (.placeholder name) := fun hmem =>
    absurd (Template.eq_or_isPart_of_mem_spelling hname hmem) (by decide)
  rw [advance, List.flatMap_singleton]
  cases state with
  | outside => exact foldl_step_outside hquote
  | inside => exact foldl_step_inside hquote hslash
  | escaped => exact absurd rfl hstate

/-! ## Filled parts -/

/-- Whether the placeholders among pieces have identifiers for names. -/
def Named (pieces : List Piece) : Prop :=
  ∀ name, .placeholder name ∈ pieces → Name.isIdentifier name

theorem Named.left {left right : List Piece} (hnamed : Named (left ++ right)) : Named left :=
  fun name hname => hnamed name (List.mem_append_left _ hname)

theorem Named.right {left right : List Piece} (hnamed : Named (left ++ right)) : Named right :=
  fun name hname => hnamed name (List.mem_append_right _ hname)

/-- The characters that a fragment of a string literal stands for. -/
def Fragment.value (arguments : Arguments) : Fragment → List Char
  | .glyph g => [g.char]
  | .hole name => argumentText (arguments.find? (String.ofList name))

/-- The token that a part stands for. -/
def Part.token? (arguments : Arguments) : Part → Option Token
  | .atom a => a.token?
  | .string fragments => some (.string (fragments.flatMap (Fragment.value arguments)))
  | .hole name => scalarToken? ((arguments.find? (String.ofList name)).getD .null)

/-- Whether no argument is an array or an object. -/
def areScalar (arguments : Arguments) : Bool :=
  arguments.all fun argument => argument.2.isScalar

theorem isScalar_getD {arguments : Arguments} (hscalar : areScalar arguments) (name : String) :
    ((arguments.find? name).getD .null).isScalar := by
  cases hfind : arguments.find? name with
  | none => rfl
  | some value => exact List.all_eq_true.mp hscalar _ (Json.Members.mem_of_find? hfind)

section Filling

variable (arguments : Arguments)

theorem exists_filled_fragment {fragment : Fragment} (hnamed : Named (piecesOf fragment.slots)) :
    advance .inside (piecesOf fragment.slots) = .inside ∧
      ∃ glyphs : List Glyph,
        fill arguments .inside (piecesOf fragment.slots) = glyphs.flatMap Glyph.text ∧
        glyphs.map Glyph.char = fragment.value arguments := by
  cases fragment with
  | glyph glyph =>
      rw [Fragment.slots, piecesOf_chars, advance_chars, fill_chars]
      exact ⟨foldl_step_glyph glyph, [glyph], by simp, rfl⟩
  | hole name =>
      have hname := hnamed name List.mem_cons_self
      obtain ⟨glyphs, hglyphs, hvalue⟩ :=
        Json.exists_glyphs (argumentText (arguments.find? (String.ofList name)))
      refine ⟨advance_placeholder hname (by decide), glyphs, ?_, hvalue⟩
      simp [piecesOf, Fragment.slots, Slot.piece, fill, imageIn, hglyphs]

/-- Filled fragments spell the characters they stand for. -/
theorem exists_filled_fragments {fragments : List Fragment}
    (hnamed : Named (piecesOf (fragments.flatMap Fragment.slots))) :
    advance .inside (piecesOf (fragments.flatMap Fragment.slots)) = .inside ∧
      ∃ glyphs : List Glyph,
        fill arguments .inside (piecesOf (fragments.flatMap Fragment.slots)) =
          glyphs.flatMap Glyph.text ∧
        glyphs.map Glyph.char = fragments.flatMap (Fragment.value arguments) := by
  induction fragments with
  | nil => exact ⟨rfl, [], rfl, rfl⟩
  | cons fragment rest ih =>
      rw [List.flatMap_cons, piecesOf_append] at hnamed ⊢
      obtain ⟨hfirst, glyphs, hglyphs, hchars⟩ :=
        exists_filled_fragment arguments hnamed.left
      obtain ⟨hrest, others, hothers, hvalues⟩ := ih hnamed.right
      refine ⟨by rw [advance_append, hfirst, hrest], glyphs ++ others, ?_, ?_⟩
      · rw [fill_append, hfirst, hglyphs, hothers, List.flatMap_append]
      · rw [List.map_append, hchars, hvalues, List.flatMap_cons]

/-- A filled part is one lexeme, which stands for the token of the part. -/
theorem exists_filled_part {part : Part} (hnamed : Named (piecesOf part.slots))
    (hscalar : areScalar arguments) :
    advance .outside (piecesOf part.slots) = .outside ∧
      ∃ lexeme : Lexeme, fill arguments .outside (piecesOf part.slots) = lexeme.text ∧
        lexeme.token? = part.token? arguments := by
  cases part with
  | atom atom =>
      rw [Part.slots, piecesOf_chars, advance_chars, fill_chars]
      exact ⟨foldl_step_outside (Json.quote_not_mem_atom_text atom), .atom atom, rfl, rfl⟩
  | string fragments =>
      have hpieces : piecesOf (Part.string fragments).slots =
          .char '"' :: (piecesOf (fragments.flatMap Fragment.slots) ++ [.char '"']) := by
        rw [Part.slots, piecesOf, List.map_cons, List.map_append]
        rfl
      rw [hpieces] at hnamed ⊢
      have hinside : Named (piecesOf (fragments.flatMap Fragment.slots)) :=
        fun name hname => hnamed name (by simp [hname])
      obtain ⟨hadvance, glyphs, hglyphs, hchars⟩ :=
        exists_filled_fragments arguments hinside
      refine ⟨?_, .string glyphs, ?_, by rw [Lexeme.token?, Part.token?, hchars]⟩
      · rw [← List.singleton_append, advance_append, advance_append]
        have hopen : advance .outside [.char '"'] = .inside := rfl
        rw [hopen, hadvance]
        rfl
      · have hopen : Quoting.step .outside '"' = .inside := rfl
        rw [fill, hopen, fill_append, hglyphs]
        rfl
  | hole name =>
      have hname := hnamed name List.mem_cons_self
      obtain ⟨lexeme, token, htext, htoken, hscalarToken, -⟩ :=
        Json.exists_lexeme (isScalar_getD hscalar (String.ofList name))
      refine ⟨advance_placeholder hname (by decide), lexeme, ?_, ?_⟩
      · rw [htext]
        simp [piecesOf, Part.slots, Slot.piece, fill, imageIn]
      · rw [htoken, Part.token?, hscalarToken]

/-- Filled parts are lexemes, which stand for the tokens of the parts. -/
theorem exists_filled_parts {parts : List Part}
    (hnamed : Named (piecesOf (parts.flatMap Part.slots)))
    (hscalar : areScalar arguments) :
    ∃ lexemes : List Lexeme,
      fill arguments .outside (piecesOf (parts.flatMap Part.slots)) = textOf lexemes ∧
      tokensOf lexemes = parts.filterMap (Part.token? arguments) := by
  induction parts with
  | nil => exact ⟨[], rfl, rfl⟩
  | cons part rest ih =>
      rw [List.flatMap_cons, piecesOf_append] at hnamed ⊢
      obtain ⟨hadvance, lexeme, htext, htoken⟩ := exists_filled_part arguments hnamed.left hscalar
      obtain ⟨lexemes, hrest, htokens⟩ := ih hnamed.right
      refine ⟨lexeme :: lexemes, ?_, ?_⟩
      · rw [fill_append, hadvance, htext, hrest, Json.textOf_cons]
      · rw [tokensOf, List.filterMap_cons, List.filterMap_cons, htoken, ← htokens, tokensOf]

end Filling

/-- The token of a part may stand where the one that it leaves in the document does. -/
theorem replaces_part {arguments : Arguments} (part : Part)
    (hscalar : areScalar arguments) :
    List.Forall₂ Replaces (part.token? arguments).toList part.lexeme.token?.toList := by
  cases part with
  | atom atom => exact List.forall₂_same.mpr fun token _ => .same token
  | string fragments => exact .cons (.string _ _) .nil
  | hole name =>
      obtain ⟨lexeme, token, -, -, htoken, hnew⟩ :=
        Json.exists_lexeme (isScalar_getD hscalar (String.ofList name))
      rw [Part.token?, htoken]
      exact .cons (.null hnew) .nil

theorem replaces_parts {arguments : Arguments} (parts : List Part)
    (hscalar : areScalar arguments) :
    List.Forall₂ Replaces (parts.filterMap (Part.token? arguments))
      (tokensOf (parts.map Part.lexeme)) := by
  rw [tokensOf, List.filterMap_map, List.filterMap_eq_flatMap_toList,
    List.filterMap_eq_flatMap_toList]
  induction parts with
  | nil => exact .nil
  | cons part rest ih =>
      rw [List.flatMap_cons, List.flatMap_cons]
      exact List.rel_append (replaces_part part hscalar) ih

end Body

end Toolbench
