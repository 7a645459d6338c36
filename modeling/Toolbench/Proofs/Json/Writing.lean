import Toolbench.Json.Printer
import Toolbench.Proofs.Json.Numeral

/-!
# Written values

What is written inside a string literal spells the characters of the text, and a value without
parts is written as one lexeme.
-/

namespace Toolbench

namespace Json

theorem code?_lower : ∀ n < 0x20,
    code? ['0', '0', Text.Hex.lower (n / 16), Text.Hex.lower (n % 16)] = some n ∧
      isLeading n = false ∧ isTrailing n = false := by
  decide

/-- A character is written as a literal spells it. -/
theorem exists_glyph (c : Char) : ∃ glyph : Glyph, glyph.text = escapeChar c ∧ glyph.char = c := by
  have hofNat : ∀ n, c.toNat = n → Char.ofNat n = c := by
    rintro n rfl
    exact Char.ofNat_toNat c
  unfold escapeChar
  split
  · rename_i hquote
    exact ⟨.short '"' '"' rfl, rfl, hquote.symm⟩
  split
  · rename_i hslash
    exact ⟨.short '\\' '\\' rfl, rfl, hslash.symm⟩
  split
  · rename_i hline
    exact ⟨.short 'n' '\n' rfl, rfl, hline.symm⟩
  split
  · rename_i hreturn
    exact ⟨.short 'r' '\r' rfl, rfl, hreturn.symm⟩
  split
  · rename_i htab
    exact ⟨.short 't' '\t' rfl, rfl, htab.symm⟩
  split
  · rename_i hback
    exact ⟨.short 'b' (Char.ofNat 0x8) rfl, rfl, hofNat 0x8 hback⟩
  split
  · rename_i hfeed
    exact ⟨.short 'f' (Char.ofNat 0xC) rfl, rfl, hofNat 0xC hfeed⟩
  split
  · rename_i hcontrol
    obtain ⟨hcode, hwhole⟩ := code?_lower c.toNat hcontrol
    exact ⟨.code _ c.toNat hcode hwhole, rfl, hofNat c.toNat rfl⟩
  · rename_i hquote hslash _ _ _ _ _ hcontrol
    exact ⟨.plain c (by simp [isUnescaped, hquote, hslash]; omega), rfl, rfl⟩

theorem exists_glyphs (text : List Char) : ∃ glyphs : List Glyph,
    glyphs.flatMap Glyph.text = escapeChars text ∧ glyphs.map Glyph.char = text := by
  induction text with
  | nil =>
      exact ⟨[], rfl, rfl⟩
  | cons c rest ih =>
      obtain ⟨glyph, hglyph, hc⟩ := exists_glyph c
      obtain ⟨glyphs, hglyphs, hrest⟩ := ih
      refine ⟨glyph :: glyphs, ?_, by simp [hc, hrest]⟩
      rw [List.flatMap_cons, hglyph, hglyphs, escapeChars, escapeChars, List.flatMap_cons]

def scalarToken? : Json → Option Token
  | .null => some (.word .null)
  | .bool value => some (.word (.bool value))
  | .number value => some (.number (numberText value).toList)
  | .string text => some (.string text.toList)
  | .array _ => none
  | .object _ => none

def isScalar (value : Json) : Bool :=
  (scalarToken? value).isSome

/-- A value without parts is written as one lexeme. -/
theorem exists_lexeme {value : Json} (hscalar : value.isScalar) :
    ∃ (lexeme : Lexeme) (token : Token), lexeme.text = value.writeChars ∧
      lexeme.token? = some token ∧ scalarToken? value = some token ∧ token.isScalar := by
  cases value with
  | null =>
      exact ⟨.atom (.word .null), _, by simp [Lexeme.text, Atom.text, Word.text, writeChars],
        rfl, rfl, rfl⟩
  | bool value =>
      refine ⟨.atom (.word (.bool value)), _, ?_, rfl, rfl, rfl⟩
      cases value <;> simp [Lexeme.text, Atom.text, Word.text, writeChars]
  | number value =>
      exact ⟨.atom (.number _ (isNumber_numberText value)), _,
        by simp [Lexeme.text, Atom.text, writeChars], rfl, rfl, rfl⟩
  | string text =>
      obtain ⟨glyphs, hglyphs, htext⟩ := exists_glyphs text.toList
      refine ⟨.string glyphs, .string text.toList, ?_, by simp [Lexeme.token?, htext], rfl, rfl⟩
      simp [Lexeme.text, writeChars, quoteChars, hglyphs]
  | array items =>
      cases hscalar
  | object members =>
      cases hscalar

end Json

end Toolbench
