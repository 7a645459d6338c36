import Toolbench.Proofs.Json.Grammar

/-!
# Places of string literals

The grammar itself does not ask what a string literal means: the digits of an escape sequence may
spell half a surrogate pair. A document in this wider sense is a text together with the symbols
that it is made of, and a string literal in it has a place: that of its two quotes.
-/

namespace Toolbench

namespace Json

/-! ## Symbols -/

/-- A character of a string literal or an escape sequence, whatever it stands for. -/
inductive Stroke where
  | plain (c : Char) (hplain : isUnescaped c)
  | short (letter c : Char) (hshort : shortEscape? letter = some c)
  | code (digits : List Char) (n : Nat) (hcode : code? digits = some n)

def Stroke.text : Stroke → List Char
  | .plain c _ => [c]
  | .short letter _ _ => ['\\', letter]
  | .code digits _ _ => '\\' :: 'u' :: digits

/-- A piece of a document, whatever its string literals stand for. -/
inductive Symbol where
  | atom (atom : Atom)
  | literal (strokes : List Stroke)

namespace Symbol

/-- The text of a symbol, of a string literal with its quotes. -/
def text : Symbol → List Char
  | .atom a => a.text
  | .literal strokes => '"' :: strokes.flatMap Stroke.text ++ ['"']

/-- The token of a symbol that is not blank: for a string literal, what is between its quotes. -/
def token? : Symbol → Option Token
  | .atom a => a.token?
  | .literal strokes => some (.string (strokes.flatMap Stroke.text))

end Symbol

/-- A text as a document: symbols whose tokens derive a value. -/
structure Document (text : List Char) where
  symbols : List Symbol
  text_eq : symbols.flatMap Symbol.text = text
  derived : Derives .value (symbols.filterMap Symbol.token?)

/-! ## Places -/

/-- A string literal among the symbols has its quotes at these positions. -/
def QuotesAt (symbols : List Symbol) (opening closing : Nat) : Prop :=
  ∃ before strokes behind, symbols = before ++ .literal strokes :: behind ∧
    opening = (before.flatMap Symbol.text).length ∧
    closing = opening + 1 + (strokes.flatMap Stroke.text).length

/-- A position behind the opening quote of a string literal, but not behind the closing one. -/
def InLiteral (symbols : List Symbol) (position : Nat) : Prop :=
  ∃ opening closing, QuotesAt symbols opening closing ∧ opening < position ∧ position ≤ closing

theorem quotesAt_cons_iff (symbol : Symbol) (rest : List Symbol) (opening closing : Nat) :
    QuotesAt (symbol :: rest) opening closing ↔
      (∃ strokes, symbol = .literal strokes ∧ opening = 0 ∧
        closing = 1 + (strokes.flatMap Stroke.text).length) ∨
      ∃ first last, QuotesAt rest first last ∧ opening = symbol.text.length + first ∧
        closing = symbol.text.length + last := by
  constructor
  · rintro ⟨before, strokes, behind, hsymbols, rfl, rfl⟩
    cases before with
    | nil =>
        obtain ⟨rfl, rfl⟩ := List.cons_eq_cons.mp hsymbols
        exact Or.inl ⟨strokes, rfl, rfl, by simp⟩
    | cons first before =>
        obtain ⟨rfl, rfl⟩ := List.cons_eq_cons.mp hsymbols
        refine Or.inr ⟨_, _, ⟨before, strokes, behind, rfl, rfl, rfl⟩, ?_, ?_⟩
        · rw [List.flatMap_cons, List.length_append]
        · rw [List.flatMap_cons, List.length_append]
          omega
  · rintro (⟨strokes, rfl, rfl, rfl⟩ | ⟨first, last, hquotes, rfl, rfl⟩)
    · exact ⟨[], strokes, rest, rfl, rfl, by omega⟩
    · obtain ⟨before, strokes, behind, rfl, rfl, rfl⟩ := hquotes
      refine ⟨symbol :: before, strokes, behind, rfl, ?_, ?_⟩
      · rw [List.flatMap_cons, List.length_append]
      · omega

theorem length_literal (strokes : List Stroke) :
    (Symbol.literal strokes).text.length = (strokes.flatMap Stroke.text).length + 2 := by
  rw [Symbol.text, List.cons_append, List.length_cons, List.length_append]
  rfl

theorem not_inLiteral_nil (position : Nat) : ¬ InLiteral [] position := by
  rintro ⟨opening, closing, ⟨before, strokes, behind, hsymbols, -, -⟩, -, -⟩
  exact absurd hsymbols.symm (by simp)

/-- Within the first symbol a position is in a literal if the symbol is one, and the position is
not in front of it. -/
theorem inLiteral_cons_of_lt {symbol : Symbol} {rest : List Symbol} {position : Nat}
    (hlt : position < symbol.text.length) :
    InLiteral (symbol :: rest) position ↔ (∃ strokes, symbol = .literal strokes) ∧ 0 < position := by
  constructor
  · rintro ⟨opening, closing, hquotes, hopening, hclosing⟩
    obtain ⟨strokes, rfl, rfl, rfl⟩ | ⟨first, last, hrest, rfl, rfl⟩ :=
      (quotesAt_cons_iff _ _ _ _).mp hquotes
    · exact ⟨⟨strokes, rfl⟩, hopening⟩
    · omega
  · rintro ⟨⟨strokes, rfl⟩, hpos⟩
    rw [length_literal] at hlt
    exact ⟨_, _, (quotesAt_cons_iff _ _ _ _).mpr (Or.inl ⟨strokes, rfl, rfl, rfl⟩), hpos,
      by omega⟩

/-- Behind the first symbol it does not matter what the symbol is. -/
theorem inLiteral_length_add (symbol : Symbol) (rest : List Symbol) (position : Nat) :
    InLiteral (symbol :: rest) (symbol.text.length + position) ↔ InLiteral rest position := by
  constructor
  · rintro ⟨opening, closing, hquotes, hopening, hclosing⟩
    obtain ⟨strokes, rfl, rfl, rfl⟩ | ⟨first, last, hrest, rfl, rfl⟩ :=
      (quotesAt_cons_iff _ _ _ _).mp hquotes
    · rw [length_literal] at hclosing
      omega
    · exact ⟨first, last, hrest, by omega, by omega⟩
  · rintro ⟨first, last, hrest, hfirst, hlast⟩
    exact ⟨_, _, (quotesAt_cons_iff _ _ _ _).mpr (Or.inr ⟨first, last, hrest, rfl, rfl⟩),
      by omega, by omega⟩

/-! ## Lexemes as symbols -/

/-- A character of a literal as the strokes that spell it. -/
def Glyph.strokes : Glyph → List Stroke
  | .plain c hplain => [.plain c hplain]
  | .short letter c hshort => [.short letter c hshort]
  | .code digits n hcode _ => [.code digits n hcode]
  | .pair first second high low hfirst hsecond _ =>
      [.code first high hfirst, .code second low hsecond]

theorem flatMap_text_strokes (glyph : Glyph) : glyph.strokes.flatMap Stroke.text = glyph.text := by
  cases glyph <;> simp [Glyph.strokes, Glyph.text, Stroke.text]

/-- A lexeme, without regard to what it means. -/
def Lexeme.symbol : Lexeme → Symbol
  | .atom a => .atom a
  | .string glyphs => .literal (glyphs.flatMap Glyph.strokes)

theorem text_symbol (lexeme : Lexeme) : lexeme.symbol.text = lexeme.text := by
  cases lexeme with
  | atom atom => rfl
  | string glyphs =>
      have hstrokes : (glyphs.flatMap Glyph.strokes).flatMap Stroke.text =
          glyphs.flatMap Glyph.text := by
        rw [List.flatMap_assoc]
        exact congrArg (List.flatMap · glyphs) (funext flatMap_text_strokes)
      rw [Lexeme.symbol, Symbol.text, hstrokes]
      rfl

/-- The spelling of a string may stand for the string in a derivation. -/
theorem replaces_symbol (lexeme : Lexeme) :
    Option.Rel Replaces lexeme.symbol.token? lexeme.token? := by
  cases lexeme with
  | atom atom =>
      change Option.Rel Replaces atom.token? atom.token?
      cases atom.token? with
      | none => exact .none
      | some token => exact .some (.same token)
  | string glyphs => exact .some (.string _ _)

theorem replaces_symbols (lexemes : List Lexeme) :
    List.Forall₂ Replaces ((lexemes.map Lexeme.symbol).filterMap Symbol.token?)
      (tokensOf lexemes) := by
  rw [tokensOf, List.filterMap_map]
  refine List.rel_filterMap (R := (· = ·)) ?_ (List.forall₂_refl lexemes)
  rintro lexeme _ rfl
  exact replaces_symbol lexeme

/-- The document of lexemes that derive a value. -/
def Document.ofLexemes {lexemes : List Lexeme} (hdocument : IsDocument lexemes) :
    Document (textOf lexemes) where
  symbols := lexemes.map Lexeme.symbol
  text_eq := by
    rw [List.flatMap_map, textOf]
    exact congrArg (List.flatMap · lexemes) (funext text_symbol)
  derived := Derives.of_replaces hdocument (replaces_symbols lexemes)

end Json

end Toolbench
