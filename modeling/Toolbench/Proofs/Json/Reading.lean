import Toolbench.Proofs.Json.Grammar

/-!
# Reading lexemes

The reader finds in a string literal the characters that its glyphs stand for. A text is that of
one document at most, as far as its tokens go.
-/

namespace Toolbench

namespace Json

/-! ## String literals -/

theorem length_le_size (text : List Char) : text.length ≤ Text.Utf8.size text := by
  unfold Text.Utf8.size Text.Utf8.encodeChars
  induction text with
  | nil => exact Nat.le_refl 0
  | cons c rest ih =>
      have hbytes : 1 ≤ (Text.Utf8.encodeChar c).length := by
        unfold Text.Utf8.encodeChar
        dsimp only
        split
        · simp
        split
        · simp
        split <;> simp
      rw [List.flatMap_cons, List.length_append, List.length_cons]
      omega

theorem readHex_append {digits : List Char} {n : Nat} (hcode : code? digits = some n)
    (rest : List Char) : readHex (digits ++ rest) = .ok (n, rest) := by
  unfold code? at hcode
  split at hcode
  · rename_i a b c d
    simp only [Option.bind_eq_bind, Option.bind_eq_some_iff] at hcode
    obtain ⟨first, ha, second, hb, third, hc, fourth, hd, hn⟩ := hcode
    obtain rfl := Option.some.inj hn
    have hsize : ¬ Text.Utf8.size [a, b, c, d] < 4 := by
      have hlength := length_le_size [a, b, c, d]
      rw [List.length_cons, List.length_cons, List.length_cons, List.length_cons,
        List.length_nil] at hlength
      omega
    have htake : ([a, b, c, d] ++ rest).take 4 = [a, b, c, d] := rfl
    unfold readHex
    rw [htake, if_neg hsize]
    simp only [List.cons_append, List.nil_append, ha, hb, hc, hd]
  · cases hcode

theorem readEscape_short {letter c : Char} (hshort : shortEscape? letter = some c)
    (rest : List Char) : readEscape (letter :: rest) = .ok (c, rest) := by
  unfold shortEscape? at hshort
  split at hshort
  all_goals first | (obtain rfl := Option.some.inj hshort; rfl) | cases hshort

theorem readEscape_code {digits : List Char} {n : Nat} (hcode : code? digits = some n)
    (hwhole : isLeading n = false ∧ isTrailing n = false) (rest : List Char) :
    readEscape ('u' :: digits ++ rest) = .ok (Char.ofNat n, rest) := by
  simp only [isLeading, isTrailing] at hwhole
  rw [List.cons_append, readEscape, readUnicode, readHex_append hcode]
  simp only [bind, Except.bind, hwhole.1, hwhole.2, Bool.false_eq_true, if_false]

theorem readEscape_pair {first second : List Char} {high low : Nat}
    (hfirst : code? first = some high) (hsecond : code? second = some low)
    (hpair : isLeading high ∧ isTrailing low) (rest : List Char) :
    readEscape ('u' :: first ++ '\\' :: 'u' :: second ++ rest) =
      .ok (Char.ofNat ((high - 0xD800) * 0x400 + (low - 0xDC00) + 0x10000), rest) := by
  have hnot : (decide (0xDC00 ≤ high) && decide (high ≤ 0xDFFF)) = false := by
    simp only [isLeading, Bool.and_eq_true, decide_eq_true_eq] at hpair
    simp
    omega
  simp only [isLeading, isTrailing] at hpair
  rw [List.cons_append, List.cons_append, List.append_assoc, readEscape, readUnicode,
    readHex_append hfirst]
  simp only [bind, Except.bind, hnot, hpair.1, Bool.false_eq_true, if_false, if_true,
    List.cons_append, readTrailing, readHex_append hsecond, hpair.2]

theorem readStringFuel_glyph (fuel : Nat) (glyph : Glyph) (rest : List Char) :
    readStringFuel (fuel + 1) (glyph.text ++ rest) =
      (readStringFuel fuel rest).map fun (text, behind) => (glyph.char :: text, behind) := by
  have hescape : ∀ (escape : List Char) (c : Char), glyph.text = '\\' :: escape →
      readEscape (escape ++ rest) = .ok (c, rest) →
      readStringFuel (fuel + 1) (glyph.text ++ rest) =
        (readStringFuel fuel rest).map fun (text, behind) => (c :: text, behind) := by
    intro escape c htext hread
    rw [htext, List.cons_append, readStringFuel, if_neg (by decide), if_pos rfl, hread]
    simp only [bind, Except.bind]
    cases readStringFuel fuel rest <;> rfl
  cases glyph with
  | plain c hplain =>
      have hc := hplain
      simp only [isUnescaped, Bool.and_eq_true, bne_iff_ne, decide_eq_true_eq] at hc
      have htext : (Glyph.plain c hplain).text ++ rest = c :: rest := rfl
      rw [htext, readStringFuel, if_neg hc.1.1, if_neg hc.1.2, if_neg (by omega)]
      simp only [bind, Except.bind]
      cases readStringFuel fuel rest <;> rfl
  | short letter c hshort => exact hescape [letter] c rfl (readEscape_short hshort rest)
  | code digits n hcode hwhole =>
      exact hescape ('u' :: digits) _ rfl (readEscape_code hcode hwhole rest)
  | pair first second high low hfirst hsecond hpair =>
      exact hescape ('u' :: first ++ '\\' :: 'u' :: second) _ rfl
        (readEscape_pair hfirst hsecond hpair rest)

theorem readStringFuel_glyphs {fuel : Nat} (glyphs : List Glyph) (rest : List Char)
    (hfuel : glyphs.length < fuel) :
    readStringFuel fuel (glyphs.flatMap Glyph.text ++ '"' :: rest) =
      .ok (glyphs.map Glyph.char, rest) := by
  induction glyphs generalizing fuel with
  | nil =>
      cases fuel with
      | zero => exact absurd hfuel (Nat.not_lt_zero _)
      | succ fuel => rfl
  | cons glyph glyphs ih =>
      cases fuel with
      | zero => exact absurd hfuel (Nat.not_lt_zero _)
      | succ fuel =>
          rw [List.flatMap_cons, List.append_assoc, readStringFuel_glyph,
            ih (Nat.lt_of_succ_lt_succ hfuel)]
          rfl

theorem length_le_flatMap_text (glyphs : List Glyph) :
    glyphs.length ≤ (glyphs.flatMap Glyph.text).length := by
  induction glyphs with
  | nil => exact Nat.le_refl 0
  | cons glyph glyphs ih =>
      obtain ⟨c, text, htext⟩ := exists_glyph_text glyph
      rw [List.flatMap_cons, htext, List.length_append, List.length_cons, List.length_cons]
      omega

/-- The reader finds in a string literal the characters of its glyphs. -/
theorem readString_glyphs (glyphs : List Glyph) (rest : List Char) :
    readString (glyphs.flatMap Glyph.text ++ '"' :: rest) = .ok (glyphs.map Glyph.char, rest) := by
  refine readStringFuel_glyphs glyphs rest ?_
  have hlength := length_le_flatMap_text glyphs
  rw [List.length_append]
  omega

/-! ## Tokens of a text -/

/-- Whether a mark stands between any two other tokens. -/
def apart : List Token → Bool
  | first :: second :: rest => !(first.isScalar && second.isScalar) && apart (second :: rest)
  | _ => true

theorem apart_mark_cons (mark : Mark) (tokens : List Token) :
    apart (.mark mark :: tokens) = apart tokens := by
  cases tokens with
  | nil => rfl
  | cons token rest => simp [apart, Token.isScalar]

theorem apart_append_mark (mark : Mark) (left right : List Token) :
    apart (left ++ .mark mark :: right) = (apart left && apart right) := by
  induction left with
  | nil =>
      rw [List.nil_append, apart_mark_cons]
      rfl
  | cons first left ih =>
      cases left with
      | nil => simp [apart, Token.isScalar, apart_mark_cons]
      | cons second rest =>
          rw [List.cons_append] at ih
          rw [List.cons_append, List.cons_append, apart, ih, apart, Bool.and_assoc]

theorem Derives.apart {goal : Goal} {tokens : List Token} (hderives : Derives goal tokens) :
    apart tokens := by
  have hmember : ∀ (key : List Char) (rest : List Token), Json.apart rest →
      Json.apart (.string key :: .mark .colon :: rest) := by
    intro key rest hrest
    rw [Json.apart, apart_mark_cons, hrest]
    rfl
  induction hderives with
  | scalar => rfl
  | emptyArray => rfl
  | array hitems ih =>
      rw [apart_mark_cons, apart_append_mark, ih]
      rfl
  | emptyObject => rfl
  | object hmembers ih =>
      rw [apart_mark_cons, apart_append_mark, ih]
      rfl
  | lastItem hitem ih => exact ih
  | nextItem hitem hitems ihItem ihItems =>
      rw [apart_append_mark, ihItem, ihItems, Bool.and_self]
  | lastMember hvalue ih => exact hmember _ _ ih
  | nextMember hvalue hmembers ihValue ihMembers =>
      refine hmember _ _ ?_
      rw [apart_append_mark, ihValue, ihMembers, Bool.and_self]

/-- What a lexeme is. -/
inductive Kind where
  | blank
  | mark
  | word
  | number
  | string
deriving DecidableEq

/-- What a lexeme is that starts with a character. -/
def kindOf (c : Char) : Kind :=
  if c = '"' then .string
  else if isSpace c then .blank
  else if c.isDigit || c = '-' then .number
  else if c.isAlpha then .word
  else .mark

/-- What an atom is. -/
def Atom.kind : Atom → Kind
  | .blank _ _ => .blank
  | .mark _ => .mark
  | .word _ => .word
  | .number _ _ => .number

theorem head_of_isWhole {text : List Char} (hwhole : isWhole text) :
    ∃ c rest, text = c :: rest ∧ c.isDigit := by
  simp only [isWhole, isDigits, Bool.or_eq_true, Bool.and_eq_true, decide_eq_true_eq,
    List.all_eq_true] at hwhole
  rcases hwhole with rfl | ⟨⟨hnonempty, hdigits⟩, -⟩
  · exact ⟨'0', [], rfl, by decide⟩
  · obtain ⟨c, rest, rfl⟩ := List.exists_cons_of_ne_nil (show text ≠ [] by simpa using hnonempty)
    exact ⟨c, rest, rfl, hdigits c List.mem_cons_self⟩

theorem head_of_isNumber {text : List Char} (hnumber : IsNumber text) :
    ∃ c rest, text = c :: rest ∧ (c.isDigit ∨ c = '-') := by
  cases hnumber with
  | positive hmagnitude =>
      cases hmagnitude with
      | intro hwhole =>
          obtain ⟨c, rest, rfl, hdigit⟩ := head_of_isWhole hwhole
          exact ⟨c, _, rfl, Or.inl hdigit⟩
  | negative => exact ⟨'-', _, rfl, Or.inr rfl⟩

theorem kindOf_of_isDigit {c : Char} (hc : c.isDigit ∨ c = '-') : kindOf c = .number := by
  have hquote : c ≠ '"' := by
    rintro rfl
    exact absurd hc (by decide)
  have hspace : isSpace c = false := by
    rw [Bool.eq_false_iff]
    intro hspace
    simp only [isSpace, Bool.or_eq_true, decide_eq_true_eq] at hspace
    rcases hspace with ((rfl | rfl) | rfl) | rfl <;> exact absurd hc (by decide)
  simp [kindOf, hquote, hspace, hc]

theorem kindOf_head (atom : Atom) : ∃ c rest, atom.text = c :: rest ∧ kindOf c = atom.kind := by
  cases atom with
  | blank c hblank =>
      have hquote : c ≠ '"' := by
        rintro rfl
        exact absurd hblank (by decide)
      exact ⟨c, [], rfl, by simp [kindOf, hquote, hblank, Atom.kind]⟩
  | mark mark => exact ⟨mark.char, [], rfl, by cases mark <;> rfl⟩
  | word word =>
      rcases word with - | value
      · exact ⟨'n', _, rfl, rfl⟩
      · cases value <;> exact ⟨_, _, rfl, rfl⟩
  | number text hnumber =>
      obtain ⟨c, rest, htext, hc⟩ := head_of_isNumber hnumber
      exact ⟨c, rest, htext, kindOf_of_isDigit hc⟩

theorem mark_char_injective : ∀ first second : Mark, first.char = second.char → first = second := by
  intro first second
  cases first <;> cases second <;> decide

theorem word_unique {first second : Word} {left right : List Char}
    (htext : first.text ++ left = second.text ++ right) : left = right ∧ first = second := by
  rcases first with - | (- | -) <;> rcases second with - | (- | -) <;>
    simp [Word.text] at htext ⊢ <;> exact htext

theorem number_unique {first second left right : List Char} (hfirst : IsNumber first)
    (hsecond : IsNumber second) (hleft : left.head?.all fun c => !isNumeral c)
    (hright : right.head?.all fun c => !isNumeral c) (htext : first ++ left = second ++ right) :
    left = right ∧ first = second := by
  have htake : ∀ {text rest : List Char}, IsNumber text →
      rest.head?.all (fun c => !isNumeral c) → (text ++ rest).takeWhile isNumeral = text := by
    intro text rest hnumber hrest
    have hall := List.all_eq_true.mp (all_isNumeral_of_isNumber hnumber)
    rw [List.takeWhile_append_of_pos hall]
    cases rest with
    | nil => simp
    | cons c rest =>
        have hc : isNumeral c = false := by
          simpa using hrest
        rw [List.takeWhile_cons_of_neg (by simp [hc]), List.append_nil]
  have hsame : first = second := by
    rw [← htake hfirst hleft, htext, htake hsecond hright]
  subst hsame
  exact ⟨List.append_cancel_left htext, rfl⟩

theorem atom_unique {first second : Atom} {left right : List Char}
    (hleft : first.kind = .number → left.head?.all fun c => !isNumeral c)
    (hright : second.kind = .number → right.head?.all fun c => !isNumeral c)
    (htext : first.text ++ left = second.text ++ right) :
    left = right ∧ first.token? = second.token? := by
  have hkind : first.kind = second.kind := by
    obtain ⟨c, more, hfirst, hc⟩ := kindOf_head first
    obtain ⟨d, others, hsecond, hd⟩ := kindOf_head second
    rw [hfirst, hsecond] at htext
    obtain ⟨rfl, -⟩ := List.cons_eq_cons.mp htext
    rw [← hc, ← hd]
  cases first with
  | blank c =>
      cases second with
      | blank d => exact ⟨(List.cons_eq_cons.mp htext).2, rfl⟩
      | _ => cases hkind
  | mark mark =>
      cases second with
      | mark other =>
          obtain ⟨hchar, hrest⟩ := List.cons_eq_cons.mp htext
          obtain rfl := mark_char_injective mark other hchar
          exact ⟨hrest, rfl⟩
      | _ => cases hkind
  | word word =>
      cases second with
      | word other =>
          obtain ⟨hrest, rfl⟩ := word_unique htext
          exact ⟨hrest, rfl⟩
      | _ => cases hkind
  | number text hnumber =>
      cases second with
      | number other hother =>
          obtain ⟨hrest, rfl⟩ := number_unique hnumber hother (hleft rfl) (hright rfl) htext
          exact ⟨hrest, rfl⟩
      | _ => cases hkind

theorem string_unique {first second : List Glyph} {left right : List Char}
    (htext : (Lexeme.string first).text ++ left = (Lexeme.string second).text ++ right) :
    left = right ∧ first.map Glyph.char = second.map Glyph.char := by
  simp only [Lexeme.text, List.cons_append, List.append_assoc, List.nil_append,
    List.cons.injEq, true_and] at htext
  have hread := readString_glyphs first left
  rw [htext, readString_glyphs second right] at hread
  obtain ⟨hchars, hrest⟩ := Prod.mk.inj (Except.ok.inj hread)
  exact ⟨hrest.symm, hchars.symm⟩

theorem atom_text_ne_string {atom : Atom} {glyphs : List Glyph} {left right : List Char} :
    atom.text ++ left ≠ (Lexeme.string glyphs).text ++ right := by
  intro htext
  obtain ⟨c, rest, hatom, hkind⟩ := kindOf_head atom
  rw [hatom] at htext
  obtain ⟨rfl, -⟩ := List.cons_eq_cons.mp htext
  cases atom <;> cases hkind

/-- Whether a text may stand behind a lexeme without becoming part of it. -/
def MayFollow (lexeme : Lexeme) (text : List Char) : Prop :=
  ∀ atom, lexeme = .atom atom → atom.kind = .number → text.head?.all fun c => !isNumeral c

theorem lexeme_unique {first second : Lexeme} {left right : List Char}
    (hleft : MayFollow first left) (hright : MayFollow second right)
    (htext : first.text ++ left = second.text ++ right) :
    left = right ∧ first.token? = second.token? := by
  cases first with
  | atom atom =>
      cases second with
      | atom other => exact atom_unique (hleft atom rfl) (hright other rfl) htext
      | string glyphs => exact absurd htext atom_text_ne_string
  | string glyphs =>
      cases second with
      | atom other => exact absurd htext.symm atom_text_ne_string
      | string others =>
          obtain ⟨hrest, hchars⟩ := string_unique htext
          exact ⟨hrest, by rw [Lexeme.token?, Lexeme.token?, hchars]⟩

theorem apart_of_cons {lexeme : Lexeme} {rest : List Lexeme}
    (hapart : apart (tokensOf (lexeme :: rest))) : apart (tokensOf rest) := by
  rw [tokensOf_cons] at hapart
  cases htoken : lexeme.token? with
  | none => simpa [htoken] using hapart
  | some token =>
      rw [htoken] at hapart
      cases htokens : tokensOf rest with
      | nil => rfl
      | cons next others =>
          rw [htokens] at hapart
          exact (Bool.and_eq_true _ _ ▸ hapart : _ ∧ _).2

theorem mayFollow_of_apart {lexeme : Lexeme} {rest : List Lexeme}
    (hapart : apart (tokensOf (lexeme :: rest))) : MayFollow lexeme (textOf rest) := by
  rintro (c | mark | word | ⟨text, hnumber⟩) rfl hkind
  · cases hkind
  · cases hkind
  · cases hkind
  · cases rest with
    | nil => rfl
    | cons next others =>
        cases next with
        | string glyphs => cases hapart
        | atom atom =>
            cases atom with
            | blank c hblank =>
                simp only [isSpace, Bool.or_eq_true, decide_eq_true_eq] at hblank
                rcases hblank with ((rfl | rfl) | rfl) | rfl <;> rfl
            | mark mark => cases mark <;> rfl
            | word word => cases hapart
            | number other => cases hapart

theorem tokensOf_unique {first second : List Lexeme} (hfirst : apart (tokensOf first))
    (hsecond : apart (tokensOf second)) (htext : textOf first = textOf second) :
    tokensOf first = tokensOf second := by
  induction first generalizing second with
  | nil =>
      cases second with
      | nil => rfl
      | cons lexeme rest => exact absurd htext.symm (textOf_cons_ne_nil lexeme rest)
  | cons lexeme rest ih =>
      cases second with
      | nil => exact absurd htext (textOf_cons_ne_nil lexeme rest)
      | cons other others =>
          rw [textOf_cons, textOf_cons] at htext
          obtain ⟨hrest, htoken⟩ := lexeme_unique (mayFollow_of_apart hfirst)
            (mayFollow_of_apart hsecond) htext
          rw [tokensOf_cons, tokensOf_cons, htoken,
            ih (apart_of_cons hfirst) (apart_of_cons hsecond) hrest]

/-- Documents with the same text have the same tokens. -/
theorem IsDocument.tokensOf_eq {first second : List Lexeme} (hfirst : IsDocument first)
    (hsecond : IsDocument second) (htext : textOf first = textOf second) :
    tokensOf first = tokensOf second :=
  tokensOf_unique (Derives.apart hfirst) (Derives.apart hsecond) htext

end Json

end Toolbench
