import Toolbench.Proofs.Invocation.Quoting
import Toolbench.Proofs.Json.Reading
import Toolbench.Proofs.Template.Filling

/-!
# Arguments in bodies

A body in the shape of a JSON document is one whatever its arguments are: they become characters
of the string literals in which they stand, or single values, and never marks.
-/

namespace Toolbench

namespace Body

open Template (spelling weave pieces piecesFrom)
open Json (Lexeme Replaces IsDocument textOf tokensOf)

/-! ## The shape of a template -/

def isBlankPiece : Piece → Bool
  | .char c => Text.isBlank c
  | .placeholder _ => false

/-- Whether the first piece that is not blank is a literal bracket that opens a list or an
object. -/
def opensContainer (template : String) : Bool :=
  match (pieces template).dropWhile isBlankPiece with
  | .char c :: _ => c = '{' || c = '['
  | _ => false

theorem dropWhile_piecesFrom (text : List Char) :
    (piecesFrom false text).dropWhile isBlankPiece = piecesFrom false (Text.dropBlanks text) := by
  induction text with
  | nil => simp [piecesFrom, Text.dropBlanks]
  | cons c rest ih =>
      cases hblank : Text.isBlank c with
      | true =>
          have hbrace : c ≠ '{' := by
            rintro rfl
            exact absurd hblank (by decide)
          have hdollar : c ≠ '$' := by
            rintro rfl
            exact absurd hblank (by decide)
          rw [piecesFrom, if_neg (by simp [hbrace]), Text.dropBlanks,
            List.dropWhile_cons_of_pos hblank, List.dropWhile_cons_of_pos (by exact hblank)]
          simpa [hdollar, Text.dropBlanks] using ih
      | false =>
          have hkept : Text.dropBlanks (c :: rest) = c :: rest := by
            rw [Text.dropBlanks, List.dropWhile_cons_of_neg (by simp [hblank])]
          rw [hkept, piecesFrom]
          split
          · split
            · rw [List.dropWhile_cons_of_neg (by simp [isBlankPiece])]
            · rw [List.dropWhile_cons_of_neg (by simp [isBlankPiece, hblank])]
          · rw [List.dropWhile_cons_of_neg (by simp [isBlankPiece, hblank])]

theorem exists_trimBlanks {text behind : List Char} {c : Char}
    (htext : Text.dropBlanks text = c :: behind) (hblank : Text.isBlank c = false) :
    ∃ body trailing, behind = body ++ trailing ∧ Text.trimBlanks text = c :: body := by
  refine ⟨(Text.dropBlanks behind.reverse).reverse,
    (behind.reverse.takeWhile Text.isBlank).reverse, ?_, ?_⟩
  · rw [← List.reverse_append, Text.dropBlanks, List.takeWhile_append_dropWhile,
      List.reverse_reverse]
  · have hlast : Text.dropBlanks (behind.reverse ++ [c]) =
        Text.dropBlanks behind.reverse ++ [c] := by
      rw [Text.dropBlanks, List.dropWhile_append]
      split
      · rename_i hempty
        rw [List.isEmpty_iff] at hempty
        rw [Text.dropBlanks, hempty, List.dropWhile_cons_of_neg (by simp [hblank])]
        rfl
      · rfl
    rw [Text.trimBlanks, htext, List.reverse_cons, hlast, List.reverse_append]
    rfl

theorem isJsonShaped_of_opensContainer {template : String} (hopens : opensContainer template) :
    isJsonShaped template := by
  unfold opensContainer at hopens
  rw [pieces, dropWhile_piecesFrom] at hopens
  split at hopens
  · rename_i c more hpieces
    have hbracket : c = '{' ∨ c = '[' := by
      simpa using hopens
    have hblank : Text.isBlank c = false := by
      rcases hbracket with rfl | rfl <;> decide
    have hshown : Text.dropBlanks template.toList =
        c :: weave (fun name => spelling (.placeholder name)) more := by
      rw [← Template.weave_spelling_piecesFrom false (Text.dropBlanks template.toList), hpieces,
        weave]
    obtain ⟨body, trailing, hbehind, htrim⟩ := exists_trimBlanks hshown hblank
    have hsole : Template.sole? (String.ofList (c :: body)) = none := by
      rw [Option.eq_none_iff_forall_ne_some]
      intro name hname
      obtain ⟨hidentifier, hword⟩ := (Template.sole?_eq_some_iff _ _).mp hname
      have hspelling : c :: body = spelling (.placeholder name.toList) := by
        simpa only [String.toList_ofList] using congrArg String.toList hword
      have hplaceholder := Template.piecesFrom_spelling_append hidentifier trailing
      rw [← hspelling, List.cons_append, ← hbehind, ← hshown, hpieces] at hplaceholder
      cases hplaceholder
    have htrimmed : Text.trim template = String.ofList (c :: body) := by
      rw [Text.trim, htrim]
    simp only [isJsonShaped, htrimmed, String.toList_ofList, List.head?_cons, hsole, hopens,
      Option.isNone_none, Bool.and_self]
  · cases hopens

/-! ## Filled templates -/

theorem toList_render {template : String} (hopens : opensContainer template)
    (arguments : Arguments) :
    (render template arguments).toList = fill arguments .outside (pieces template) := by
  have hfill : render template arguments =
      String.ofList (Template.fillPieces (m := Id) jsonImage arguments [] (pieces template)) := by
    rw [render, if_pos (isJsonShaped_of_opensContainer hopens)]
    rfl
  rw [hfill, String.toList_ofList, fillPieces_eq_fill]
  rfl

theorem Outline.named {template : String} (outline : Outline template) :
    Named (piecesOf outline.slots) := by
  intro name hname
  rw [outline.pieces_eq] at hname
  exact Template.isIdentifier_of_mem_piecesFrom false template.toList hname

/-- A body with the shape of a JSON document is one. Its tokens, of which there is one reading,
are those of the template: an argument becomes characters of the string in which it stands, or a
token of its own, and every mark, word and number of the template stays as it is. -/
theorem render_document {template : String} (outline : Outline template)
    (hopens : opensContainer template) (arguments : Arguments) (hscalar : areScalar arguments) :
    ∃ (parts : List Part) (rendered : List Lexeme),
      parts.flatMap Part.slots = outline.slots ∧
      parts.map Part.lexeme = outline.document ∧
      textOf rendered = (render template arguments).toList ∧
      IsDocument rendered ∧
      tokensOf rendered = parts.filterMap (Part.token? arguments) ∧
      (∀ lexemes, IsDocument lexemes → textOf lexemes = (render template arguments).toList →
        tokensOf lexemes = tokensOf rendered) ∧
      List.Forall₂ Replaces (tokensOf rendered) (tokensOf outline.document) := by
  obtain ⟨parts, hslots, hlexemes⟩ := exists_parts outline.text_eq outline.suited
  have hnamed : Named (piecesOf (parts.flatMap Part.slots)) := by
    rw [hslots]
    exact outline.named
  obtain ⟨rendered, htext, htokens⟩ := exists_filled_parts arguments hnamed hscalar
  have hreplaces : List.Forall₂ Replaces (tokensOf rendered) (tokensOf outline.document) := by
    rw [htokens, ← hlexemes]
    exact replaces_parts parts hscalar
  have hdocument : IsDocument rendered := outline.derived.of_replaces hreplaces
  have hbody : textOf rendered = (render template arguments).toList := by
    rw [toList_render hopens, ← outline.pieces_eq, ← hslots, htext]
  refine ⟨parts, rendered, hslots, hlexemes, hbody, hdocument, htokens, ?_, hreplaces⟩
  intro lexemes hlexed hsame
  exact hlexed.tokensOf_eq hdocument (hsame.trans hbody.symm)

/-- The outline of a template with a placeholder inside a string literal and one outside. -/
def sampleOutline : Outline "\x7b\"a\":\"x\x7bn\x7d\",\"b\":\x7bm\x7d\x7d" where
  slots := [.char '{', .char '"', .char 'a', .char '"', .char ':', .char '"', .char 'x',
    .quoted ['n'], .char '"', .char ',', .char '"', .char 'b', .char '"', .char ':', .bare ['m'],
    .char '}']
  document := [.atom (.mark .openObject), .string [.plain 'a' rfl], .atom (.mark .colon),
    .string [.plain 'x' rfl], .atom (.mark .comma), .string [.plain 'b' rfl],
    .atom (.mark .colon), .atom (.word .null), .atom (.mark .closeObject)]
  pieces_eq := by decide +kernel
  text_eq := by decide
  suited := by decide
  derived := .object (.nextMember (.scalar rfl) (.lastMember (.scalar rfl)))

/-- The lexemes of the filled sample. -/
def sampleBody : List Lexeme :=
  [.atom (.mark .openObject), .string [.plain 'a' rfl], .atom (.mark .colon),
    .string [.plain 'x' rfl, .short '"' '"' rfl, .plain ',' rfl], .atom (.mark .comma),
    .string [.plain 'b' rfl], .atom (.mark .colon), .string [.short '"' '"' rfl],
    .atom (.mark .closeObject)]

/-- Quotes and commas in the arguments leave an object of two members. -/
theorem render_document_marks :
    ∃ rendered : List Lexeme,
      textOf rendered = "\x7b\"a\":\"x\\\",\",\"b\":\"\\\"\"\x7d".toList ∧
      IsDocument rendered ∧
      tokensOf rendered = [.mark .openObject, .string ['a'], .mark .colon,
        .string ['x', '"', ','], .mark .comma, .string ['b'], .mark .colon, .string ['"'],
        .mark .closeObject] := by
  obtain ⟨parts, rendered, -, -, htext, hdocument, -, hunique, -⟩ :=
    render_document sampleOutline (by decide +kernel)
      [("m", .string "\""), ("n", .string "\",")] (by decide)
  have hbody : (render "\x7b\"a\":\"x\x7bn\x7d\",\"b\":\x7bm\x7d\x7d"
      [("m", .string "\""), ("n", .string "\",")]).toList = textOf sampleBody := by
    decide +kernel
  have hsample : IsDocument sampleBody :=
    .object (.nextMember (.scalar rfl) (.lastMember (.scalar rfl)))
  refine ⟨rendered, (htext.trans hbody).trans (by decide), hdocument, ?_⟩
  exact (hunique sampleBody hsample hbody.symm).symm

end Body

end Toolbench
