import Toolbench.Proofs.Invocation.Quoting
import Toolbench.Proofs.Json.Literal
import Toolbench.Proofs.Json.Recognition

/-!
# Positions in documents

The scanner for quotes finds out of what stands before a position of a JSON document whether the
position is inside a string literal, be it in the middle of an escape sequence.
-/

namespace Toolbench

namespace Body

open Json (Stroke Symbol Document InLiteral)

/-! ## Inside of string literals -/

/-- The scanner stays in a string literal all through a text, and is not behind a backslash at the
end of it. -/
structure StaysInside (text : List Char) : Prop where
  within : ∀ position, (text.take position).foldl Quoting.step .inside ≠ .outside
  behind : text.foldl Quoting.step .inside = .inside

namespace StaysInside

theorem nil : StaysInside [] where
  within position := by
    rw [List.take_nil]
    decide
  behind := rfl

theorem append {left right : List Char} (hleft : StaysInside left) (hright : StaysInside right) :
    StaysInside (left ++ right) where
  within position := by
    rw [List.take_append, List.foldl_append]
    rcases Nat.le_total position left.length with hle | hle
    · rw [Nat.sub_eq_zero_of_le hle]
      exact hleft.within position
    · rw [List.take_of_length_le hle, hleft.behind]
      exact hright.within _
  behind := by rw [List.foldl_append, hleft.behind, hright.behind]

theorem unmarked {text : List Char} (hquote : '"' ∉ text) (hslash : '\\' ∉ text) :
    StaysInside text where
  within position := by
    rw [foldl_step_inside (fun hmem => hquote (List.mem_of_mem_take hmem))
      fun hmem => hslash (List.mem_of_mem_take hmem)]
    decide
  behind := foldl_step_inside hquote hslash

/-- Whatever stands behind a backslash does not close the literal. -/
theorem escape (c : Char) : StaysInside ['\\', c] where
  within position := by
    have hcases : position = 0 ∨ position = 1 ∨ 2 ≤ position := by omega
    rcases hcases with rfl | rfl | htwo
    · show Quoting.inside ≠ .outside
      decide
    · show Quoting.escaped ≠ .outside
      decide
    · rw [List.take_of_length_le htwo]
      show Quoting.inside ≠ .outside
      decide
  behind := rfl

theorem stroke (stroke : Stroke) : StaysInside stroke.text := by
  cases stroke with
  | plain c hplain =>
      simp only [Json.isUnescaped, Bool.and_eq_true, bne_iff_ne] at hplain
      exact unmarked (by simpa [Stroke.text] using hplain.1.1.symm)
        (by simpa [Stroke.text] using hplain.1.2.symm)
  | short letter c hshort => exact escape letter
  | code digits n hcode =>
      exact (escape 'u').append (unmarked (not_mem_of_code? hcode (by decide))
        (not_mem_of_code? hcode (by decide)))

theorem strokes (strokes : List Stroke) : StaysInside (strokes.flatMap Stroke.text) := by
  induction strokes with
  | nil => exact nil
  | cons first rest ih =>
      rw [List.flatMap_cons]
      exact (stroke first).append ih

end StaysInside

/-! ## Whole documents -/

theorem foldl_step_symbol (symbol : Symbol) :
    symbol.text.foldl Quoting.step .outside = .outside := by
  cases symbol with
  | atom atom => exact foldl_step_outside (Json.quote_not_mem_atom_text atom)
  | literal strokes =>
      have hopen : Quoting.step .outside '"' = .inside := rfl
      rw [Symbol.text, List.cons_append, List.foldl_cons, hopen, List.foldl_append,
        (StaysInside.strokes strokes).behind]
      rfl

/-- Within a symbol the scanner is inside if the symbol is a literal, and its opening quote is
behind. -/
theorem foldl_step_take_symbol (symbol : Symbol) {position : Nat}
    (hlt : position < symbol.text.length) :
    (symbol.text.take position).foldl Quoting.step .outside ≠ .outside ↔
      (∃ strokes, symbol = .literal strokes) ∧ 0 < position := by
  cases symbol with
  | atom atom =>
      have hquote : '"' ∉ atom.text.take position := fun hmem =>
        Json.quote_not_mem_atom_text atom (List.mem_of_mem_take hmem)
      have houtside := foldl_step_outside hquote
      exact iff_of_false (fun hinside => hinside houtside) fun ⟨⟨strokes, hatom⟩, _⟩ => by
        cases hatom
  | literal strokes =>
      cases position with
      | zero => simp
      | succ position =>
          have hlength : position ≤ (strokes.flatMap Stroke.text).length := by
            rw [Json.length_literal] at hlt
            omega
          have htake : (Symbol.literal strokes).text.take (position + 1) =
              '"' :: (strokes.flatMap Stroke.text).take position := by
            rw [Symbol.text, List.cons_append, List.take_succ_cons,
              List.take_append_of_le_length hlength]
          rw [htake]
          exact iff_of_true ((StaysInside.strokes strokes).within position)
            ⟨⟨strokes, rfl⟩, Nat.succ_pos position⟩

/-- In front of a position the scanner is inside exactly if the position is in a literal. -/
theorem foldl_step_take_iff (symbols : List Symbol) (position : Nat) :
    ((symbols.flatMap Symbol.text).take position).foldl Quoting.step .outside ≠ .outside ↔
      InLiteral symbols position := by
  induction symbols generalizing position with
  | nil => simp [Json.not_inLiteral_nil]
  | cons symbol rest ih =>
      rw [List.flatMap_cons]
      -- behind a whole symbol the scanner is outside again, as it is at the start
      rcases Nat.lt_or_ge position symbol.text.length with hlt | hge
      · rw [List.take_append_of_le_length (Nat.le_of_lt hlt), foldl_step_take_symbol symbol hlt,
          Json.inLiteral_cons_of_lt hlt]
      · obtain ⟨position, rfl⟩ := Nat.exists_eq_add_of_le hge
        rw [List.take_length_add_append, List.foldl_append, foldl_step_symbol, ih,
          Json.inLiteral_length_add]

/-- In a JSON document the scanner tells for every position whether it is in a string literal:
behind the opening quote and not behind the closing one. The documents are those of the grammar,
and every text that is read as a JSON value is one of them. -/
theorem endsInString_take_iff (text : String) :
    (∀ (document : Document text.toList) (position : Nat),
      endsInString (text.toList.take position) = true ↔
        InLiteral document.symbols position) ∧
    ∀ value, Json.parse text = .ok value → Nonempty (Document text.toList) := by
  refine ⟨fun document position => ?_, fun value hparse => ?_⟩
  · have hscan := foldl_step_take_iff document.symbols position
    rw [document.text_eq] at hscan
    rw [endsInString, bne_iff_ne, hscan]
  · obtain ⟨lexemes, hdocument, htext⟩ := Json.exists_document_of_parse hparse
    exact ⟨htext ▸ Document.ofLexemes hdocument⟩

/-- A literal with half a surrogate pair and an escaped backslash at its end. -/
def sampleDocument : Document "\"\\ud800\\\\\"".toList where
  symbols := [.literal [.code ['d', '8', '0', '0'] 0xD800 rfl, .short '\\' '\\' rfl]]
  text_eq := rfl
  derived := .scalar rfl

/-- A position between two backslashes is in the literal, and the quote behind them ends it. -/
theorem endsInString_take_sample :
    InLiteral sampleDocument.symbols 8 ∧
      endsInString ("\"\\ud800\\\\\"".toList.take 8) = true ∧
      endsInString ("\"\\ud800\\\\\"".toList.take 10) = false := by
  have hinside : InLiteral sampleDocument.symbols 8 :=
    ⟨0, 9, ⟨[], _, [], rfl, rfl, rfl⟩, by decide, by decide⟩
  exact ⟨hinside, ((endsInString_take_iff _).1 sampleDocument 8).mpr hinside, by decide⟩

end Body

end Toolbench
