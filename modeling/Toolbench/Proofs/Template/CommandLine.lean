import Toolbench.Template.CommandLine

/-!
# Words as command lines

A quote groups all characters but itself. Whatever is in it, a word can therefore be written as
quotations side by side, and such words with blanks between them are split into the words again.
-/

namespace Toolbench

namespace CommandLine

/-- A text between two quotes of a kind that it does not contain. -/
structure Quotation where
  quote : Char
  text : List Char
  isQuote_quote : isQuote quote = true
  quote_notMem : quote ∉ text

def Quotation.spelling (quotation : Quotation) : List Char :=
  quotation.quote :: (quotation.text ++ [quotation.quote])

/-- Quotations side by side, at least one, that have the characters of a word between their
quotes. -/
inductive WritesWord : List Char → List Char → Prop where
  | single (quotation : Quotation) : WritesWord quotation.text quotation.spelling
  | cons (quotation : Quotation) {word line : List Char} (hline : WritesWord word line) :
      WritesWord (quotation.text ++ word) (quotation.spelling ++ line)

/-- Blanks, at least one. -/
structure IsGap (gap : List Char) : Prop where
  ne_nil : gap ≠ []
  blank : ∀ c ∈ gap, Text.isBlank c = true

/-- Words that are written with gaps between them. -/
inductive Writes : List String → List Char → Prop where
  | nil : Writes [] []
  | single {word : String} {line : List Char} (hword : WritesWord word.toList line) :
      Writes [word] line
  | cons {word next : String} {words : List String} {first gap rest : List Char}
      (hword : WritesWord word.toList first) (hgap : IsGap gap)
      (hrest : Writes (next :: words) rest) :
      Writes (word :: next :: words) (first ++ gap ++ rest)

/-! ## Scanning -/

theorem isQuote_eq_false_of_isBlank {c : Char} (hblank : Text.isBlank c = true) :
    isQuote c = false := by
  cases hquote : isQuote c with
  | false => rfl
  | true =>
      have hkind : c = '\'' ∨ c = '"' := by
        simpa [isQuote] using hquote
      rcases hkind with rfl | rfl
      · cases hblank
      · cases hblank

theorem map_close_none (words : Except Char (List (List Char))) :
    words.map (close none) = words := by
  cases words <;> rfl

/-- Up to its quote, a quotation only adds to the word that is open. -/
theorem splitFrom_quoted {quote : Char} {text : List Char} (hquote : quote ∉ text)
    (word rest : List Char) :
    splitFrom (some quote) (some word) (text ++ quote :: rest) =
      splitFrom none (some (word ++ text)) rest := by
  induction text generalizing word with
  | nil =>
      simp [splitFrom]
  | cons c text ih =>
      have htext : quote ∉ text := fun hmem => hquote (List.mem_cons_of_mem c hmem)
      have hother : ¬ c = quote := fun hsame => hquote (hsame ▸ List.mem_cons_self)
      rw [List.cons_append, splitFrom]
      simp only [if_neg hother, Option.getD_some]
      rw [ih htext, List.append_assoc, List.singleton_append]

/-- A quotation adds its text to the word that is open, or opens a word with it. -/
theorem splitFrom_spelling (quotation : Quotation) (word : Option (List Char))
    (rest : List Char) :
    splitFrom none word (quotation.spelling ++ rest) =
      splitFrom none (some (word.getD [] ++ quotation.text)) rest := by
  rw [Quotation.spelling, List.cons_append, List.append_assoc, List.singleton_append, splitFrom]
  simp only [quotation.isQuote_quote, if_true]
  exact splitFrom_quoted quotation.quote_notMem _ rest

theorem WritesWord.splitFrom_append {word line : List Char} (hline : WritesWord word line)
    (opened : Option (List Char)) (rest : List Char) :
    splitFrom none opened (line ++ rest) =
      splitFrom none (some (opened.getD [] ++ word)) rest := by
  induction hline generalizing opened with
  | single quotation => exact splitFrom_spelling quotation opened rest
  | cons quotation _ ih =>
      rw [List.append_assoc, splitFrom_spelling, ih, Option.getD_some, List.append_assoc]

theorem splitFrom_blanks {gap : List Char} (hblank : ∀ c ∈ gap, Text.isBlank c = true)
    (rest : List Char) : splitFrom none none (gap ++ rest) = splitFrom none none rest := by
  induction gap with
  | nil =>
      rfl
  | cons c gap ih =>
      obtain ⟨hc, hgap⟩ := List.forall_mem_cons.mp hblank
      rw [List.cons_append, splitFrom]
      simp only [isQuote_eq_false_of_isBlank hc, hc, if_true, Bool.false_eq_true, if_false]
      rw [map_close_none, ih hgap]

/-- A gap closes the word that is open. -/
theorem IsGap.splitFrom_append {gap : List Char} (hgap : IsGap gap)
    (opened : Option (List Char)) (rest : List Char) :
    splitFrom none opened (gap ++ rest) = (splitFrom none none rest).map (close opened) := by
  cases gap with
  | nil => exact absurd rfl hgap.ne_nil
  | cons c gap =>
      obtain ⟨hc, hblank⟩ := List.forall_mem_cons.mp hgap.blank
      rw [List.cons_append, splitFrom]
      simp only [isQuote_eq_false_of_isBlank hc, hc, if_true, Bool.false_eq_true, if_false]
      rw [splitFrom_blanks hblank]

/-! ## Round trip -/

theorem Writes.splitFrom_eq {words : List String} {line : List Char} (hline : Writes words line) :
    splitFrom none none line = .ok (words.map String.toList) := by
  induction hline with
  | nil => rfl
  | single hword =>
      have hopened := hword.splitFrom_append none []
      rw [List.append_nil] at hopened
      rw [hopened]
      rfl
  | cons hword hgap _ ih =>
      rw [List.append_assoc, hword.splitFrom_append, hgap.splitFrom_append, ih]
      rfl

/-- A line in which words are written is split into these words. -/
theorem Writes.split_eq {words : List String} {line : String}
    (hline : Writes words line.toList) : split line = .ok words := by
  have hwords : (words.map String.toList).map String.ofList = words := by
    rw [List.map_map]
    exact List.map_id'' (fun word => String.ofList_toList) words
  rw [split, hline.splitFrom_eq]
  simp only [hwords]

/-- A quotation of one character. -/
def Quotation.ofChar (c : Char) : Quotation where
  quote := if c = '\'' then '"' else '\''
  text := [c]
  isQuote_quote := by
    by_cases hc : c = '\''
    · rw [if_pos hc]
      rfl
    · rw [if_neg hc]
      rfl
  quote_notMem := by
    rw [List.mem_singleton]
    by_cases hc : c = '\''
    · rw [if_pos hc, hc]
      decide
    · rw [if_neg hc]
      exact fun hsame => hc hsame.symm

theorem exists_writesWord (word : List Char) : ∃ line, WritesWord word line := by
  induction word with
  | nil => exact ⟨_, .single ⟨'\'', [], rfl, List.not_mem_nil⟩⟩
  | cons c word ih =>
      obtain ⟨line, hline⟩ := ih
      exact ⟨_, .cons (Quotation.ofChar c) hline⟩

/-- All words can be written as a line. -/
theorem exists_writes (words : List String) : ∃ line : String, Writes words line.toList := by
  suffices hchars : ∃ line, Writes words line by
    obtain ⟨line, hline⟩ := hchars
    exact ⟨String.ofList line, String.toList_ofList ▸ hline⟩
  induction words with
  | nil => exact ⟨[], .nil⟩
  | cons word words ih =>
      obtain ⟨first, hfirst⟩ := exists_writesWord word.toList
      obtain ⟨rest, hrest⟩ := ih
      cases words with
      | nil => exact ⟨first, .single hfirst⟩
      | cons next words =>
          have hgap : IsGap [' '] := ⟨List.cons_ne_nil _ _, List.all_eq_true.mp rfl⟩
          exact ⟨_, .cons hfirst hgap hrest⟩

end CommandLine

end Toolbench
