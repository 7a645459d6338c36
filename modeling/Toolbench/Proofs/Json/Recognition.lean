import Toolbench.Proofs.Json.Fitting
import Toolbench.Proofs.Json.Numeral

/-!
# What the reader accepts

Whatever is read has a text of the grammar: what the reader passes over in front of the rest are
lexemes, and those of a value derive one. So every text that is read is a document.
-/

namespace Toolbench

namespace Json

/-! ## Numbers -/

theorem append_spanDigits (text : List Char) :
    (spanDigits text).1 ++ (spanDigits text).2 = text := by
  induction text with
  | nil => rfl
  | cons c text ih =>
      rw [spanDigits]
      split
      · exact congrArg (c :: ·) ih
      · rfl

theorem all_isDigit_spanDigits (text : List Char) : (spanDigits text).1.all Char.isDigit := by
  induction text with
  | nil => rfl
  | cons c text ih =>
      rw [spanDigits]
      split
      · rename_i hc
        rw [List.all_cons, hc, ih, Bool.and_self]
      · rfl

theorem isDigits_spanDigits {c : Char} (hc : c.isDigit) (text : List Char) :
    isDigits (spanDigits (c :: text)).1 := by
  have hdigits := all_isDigit_spanDigits (c :: text)
  rw [spanDigits, if_pos hc] at hdigits ⊢
  simp [isDigits, hdigits]

theorem splitSign_cases (text : List Char) :
    text = (splitSign text).2 ∨
      ∃ sign, (sign = '+' ∨ sign = '-') ∧ text = sign :: (splitSign text).2 := by
  unfold splitSign
  split
  · exact Or.inr ⟨'+', Or.inl rfl, rfl⟩
  · exact Or.inr ⟨'-', Or.inr rfl, rfl⟩
  · exact Or.inl rfl

section Numbers

variable {positive : Bool} {digits : Nat} {start : Int} {text rest : List Char} {value : Number}

theorem rest_of_readScaled (hread : readScaled positive digits start text = .ok (value, rest)) :
    rest = text := by
  unfold readScaled at hread
  split at hread
  · exact (Prod.mk.inj (Except.ok.inj hread)).2.symm
  · cases hread

theorem rest_of_readPower {up : Bool} {run : List Char}
    (hread : readPower positive up digits start run text = .ok (value, rest)) : rest = text := by
  unfold readPower at hread
  split at hread
  · exact rest_of_readScaled hread
  · split at hread
    · cases hread
    · exact (Prod.mk.inj (Except.ok.inj hread)).2.symm

theorem exponent_of_readExponent {letter : Char} (hletter : letter = 'e' ∨ letter = 'E')
    (hread : readExponent positive digits start text = .ok (value, rest)) :
    ∃ exponent, IsExponent exponent ∧ letter :: text = exponent ++ rest := by
  rw [readExponent_eq] at hread
  split at hread
  · cases hread
  · rename_i c behind hbehind
    split at hread
    · rename_i hc
      obtain rfl := rest_of_readPower hread
      have hspan := append_spanDigits (c :: behind)
      have hrun := isDigits_spanDigits hc behind
      rcases splitSign_cases text with htext | ⟨sign, hsign, htext⟩
      · rw [hbehind, ← hspan] at htext
        exact ⟨_, .plain hletter hrun, by rw [htext]; rfl⟩
      · rw [hbehind, ← hspan] at htext
        exact ⟨_, .signed hletter hsign hrun, by rw [htext]; rfl⟩
    · cases hread

theorem exponent_of_readExponentOrEnd
    (hread : readExponentOrEnd positive digits start text = .ok (value, rest)) :
    ∃ exponent, IsExponent exponent ∧ text = exponent ++ rest := by
  unfold readExponentOrEnd at hread
  split at hread
  · exact exponent_of_readExponent (Or.inl rfl) hread
  · exact exponent_of_readExponent (Or.inr rfl) hread
  · exact ⟨[], .none, (rest_of_readScaled hread).symm⟩

theorem fraction_of_readFraction
    (hread : readFraction positive digits start text = .ok (value, rest)) :
    ∃ fraction exponent, IsFraction fraction ∧ IsExponent exponent ∧
      '.' :: text = fraction ++ exponent ++ rest := by
  have htext := append_spanDigits text
  have hdigits := all_isDigit_spanDigits text
  unfold readFraction at hread
  cases hspan : spanDigits text with
  | mk run behind =>
      rw [hspan] at hread htext hdigits
      cases run with
      | nil => cases hread
      | cons c run =>
          obtain ⟨exponent, hexponent, hbehind⟩ := exponent_of_readExponentOrEnd hread
          have hrun : isDigits (c :: run) := by
            rw [isDigits, hdigits]
            rfl
          refine ⟨'.' :: c :: run, exponent, .some hrun, hexponent, ?_⟩
          rw [← htext, hbehind, List.append_assoc]
          rfl

theorem parts_of_readAfterDigits {run : List Char}
    (hread : readAfterDigits positive run text = .ok (value, rest)) :
    ∃ fraction exponent, IsFraction fraction ∧ IsExponent exponent ∧
      text = fraction ++ exponent ++ rest := by
  unfold readAfterDigits at hread
  dsimp only at hread
  split at hread
  · exact fraction_of_readFraction hread
  · obtain ⟨exponent, hexponent, htext⟩ := exponent_of_readExponent (Or.inl rfl) hread
    exact ⟨[], exponent, .none, hexponent, htext⟩
  · obtain ⟨exponent, hexponent, htext⟩ := exponent_of_readExponent (Or.inr rfl) hread
    exact ⟨[], exponent, .none, hexponent, htext⟩
  · refine ⟨[], [], .none, .none, ?_⟩
    split at hread
    · split at hread
      · exact (Prod.mk.inj (Except.ok.inj hread)).2
      · cases hread
    · exact (rest_of_readScaled hread).symm

/-- What is read as a number is the text of one. -/
theorem magnitude_of_readNumber (hread : readNumber positive text = .ok (value, rest)) :
    ∃ magnitude, IsMagnitude magnitude ∧ text = magnitude ++ rest := by
  have hwhole : ∀ whole behind : List Char, isWhole whole →
      readAfterDigits positive whole behind = .ok (value, rest) →
      ∃ magnitude, IsMagnitude magnitude ∧ whole ++ behind = magnitude ++ rest := by
    intro whole behind hwhole hread
    obtain ⟨fraction, exponent, hfraction, hexponent, rfl⟩ := parts_of_readAfterDigits hread
    exact ⟨_, .intro hwhole hfraction hexponent, by simp⟩
  unfold readNumber at hread
  split at hread
  · cases hread
  · rename_i behind
    cases behind with
    | nil => exact hwhole ['0'] [] rfl hread
    | cons c behind =>
        dsimp only at hread
        split at hread
        · cases hread
        · exact hwhole ['0'] (c :: behind) rfl hread
  · rename_i c behind hzero
    split at hread
    · rename_i hc
      have hrun : isWhole (spanDigits (c :: behind)).1 := by
        have hdigits := isDigits_spanDigits hc behind
        rw [spanDigits, if_pos hc] at hdigits ⊢
        exact Decimal.isWhole_of_head? hdigits fun hhead => hzero (Option.some.inj hhead)
      have hmagnitude := hwhole _ _ hrun hread
      rwa [append_spanDigits] at hmagnitude
    · cases hread

end Numbers

/-! ## String literals -/

theorem code_of_readHex {text rest : List Char} {n : Nat} (hread : readHex text = .ok (n, rest)) :
    ∃ digits, code? digits = some n ∧ text = digits ++ rest := by
  unfold readHex at hread
  split at hread
  · cases hread
  split at hread
  · rename_i a b c d behind hsize
    split at hread
    · rename_i ha hb hc hd
      obtain ⟨rfl, rfl⟩ := Prod.mk.inj (Except.ok.inj hread)
      exact ⟨[a, b, c, d], by simp [code?, ha, hb, hc, hd], rfl⟩
    · cases hread
  · cases hread

theorem code_of_readTrailing {text rest : List Char} {leading : Nat} {c : Char}
    (hread : readTrailing leading text = .ok (c, rest)) :
    ∃ digits low, code? digits = some low ∧ isTrailing low ∧
      c = Char.ofNat ((leading - 0xD800) * 0x400 + (low - 0xDC00) + 0x10000) ∧
      text = '\\' :: 'u' :: digits ++ rest := by
  unfold readTrailing at hread
  split at hread
  · cases hread
  · cases hread
  · obtain ⟨⟨low, behind⟩, hlow, hchar⟩ := bind_eq_ok hread
    dsimp only at hchar
    split at hchar
    · rename_i htrailing
      obtain ⟨digits, hcode, rfl⟩ := code_of_readHex hlow
      obtain ⟨rfl, rfl⟩ := Prod.mk.inj (Except.ok.inj hchar)
      exact ⟨digits, low, hcode, htrailing, rfl, rfl⟩
    · cases hchar
  · cases hread
  · cases hread

theorem glyph_of_readUnicode {text rest : List Char} {c : Char}
    (hread : readUnicode text = .ok (c, rest)) :
    ∃ glyph : Glyph, glyph.char = c ∧ '\\' :: 'u' :: text = glyph.text ++ rest := by
  unfold readUnicode at hread
  obtain ⟨⟨code, behind⟩, hcode, hchar⟩ := bind_eq_ok hread
  obtain ⟨digits, hdigits, rfl⟩ := code_of_readHex hcode
  dsimp only at hchar
  split at hchar
  · cases hchar
  rename_i htrailing
  split at hchar
  · rename_i hleading
    obtain ⟨second, low, hsecond, hlow, hc, rfl⟩ := code_of_readTrailing hchar
    have hpair : isLeading code ∧ isTrailing low := ⟨by rwa [isLeading], hlow⟩
    exact ⟨.pair digits second code low hdigits hsecond hpair, hc.symm, by simp [Glyph.text]⟩
  · rename_i hleading
    obtain ⟨rfl, rfl⟩ := Prod.mk.inj (Except.ok.inj hchar)
    exact ⟨.code digits code hdigits ⟨by simpa [isLeading] using hleading,
      by simpa [isTrailing] using htrailing⟩, rfl, rfl⟩

theorem glyph_of_readEscape {text rest : List Char} {c : Char}
    (hread : readEscape text = .ok (c, rest)) :
    ∃ glyph : Glyph, glyph.char = c ∧ '\\' :: text = glyph.text ++ rest := by
  unfold readEscape at hread
  split at hread
  case h_1 => cases hread
  case h_2 => exact glyph_of_readUnicode hread
  case h_11 => cases hread
  all_goals
    obtain ⟨rfl, rfl⟩ := Prod.mk.inj (Except.ok.inj hread)
    exact ⟨.short _ _ rfl, rfl, rfl⟩

theorem glyphs_of_readStringFuel {fuel : Nat} {text rest chars : List Char}
    (hread : readStringFuel fuel text = .ok (chars, rest)) :
    ∃ glyphs : List Glyph, glyphs.map Glyph.char = chars ∧
      text = glyphs.flatMap Glyph.text ++ '"' :: rest := by
  induction fuel generalizing text chars with
  | zero => cases hread
  | succ fuel ih =>
      cases text with
      | nil => cases hread
      | cons c text =>
          rw [readStringFuel] at hread
          split at hread
          · rename_i hquote
            obtain ⟨rfl, rfl⟩ := Prod.mk.inj (Except.ok.inj hread)
            exact ⟨[], rfl, congrArg (· :: _) hquote⟩
          split at hread
          · rename_i hslash
            obtain ⟨⟨first, behind⟩, hescape, hread⟩ := bind_eq_ok hread
            obtain ⟨⟨others, left⟩, hothers, hread⟩ := bind_eq_ok hread
            obtain ⟨rfl, rfl⟩ := Prod.mk.inj (Except.ok.inj hread)
            obtain ⟨glyph, rfl, htext⟩ := glyph_of_readEscape hescape
            obtain ⟨glyphs, rfl, rfl⟩ := ih hothers
            exact ⟨glyph :: glyphs, rfl, by rw [hslash, htext]; simp⟩
          split at hread
          · cases hread
          · rename_i hquote hslash hcontrol
            obtain ⟨⟨others, left⟩, hothers, hread⟩ := bind_eq_ok hread
            obtain ⟨rfl, rfl⟩ := Prod.mk.inj (Except.ok.inj hread)
            obtain ⟨glyphs, rfl, rfl⟩ := ih hothers
            have hplain : isUnescaped c := by
              simpa [isUnescaped, hquote, hslash] using hcontrol
            exact ⟨.plain c hplain :: glyphs, rfl, rfl⟩

/-- What is read as a string is the text of a literal behind its opening quote. -/
theorem glyphs_of_readString {text rest chars : List Char}
    (hread : readString text = .ok (chars, rest)) :
    ∃ glyphs : List Glyph, glyphs.map Glyph.char = chars ∧
      text = glyphs.flatMap Glyph.text ++ '"' :: rest :=
  glyphs_of_readStringFuel hread

/-! ## Lexemes in front of a rest -/

/-- A text starts with lexemes that have these tokens, and this is what follows them. -/
def Lexes (text : List Char) (tokens : List Token) (rest : List Char) : Prop :=
  ∃ lexemes, text = textOf lexemes ++ rest ∧ tokensOf lexemes = tokens

theorem Lexes.refl (text : List Char) : Lexes text [] text :=
  ⟨[], rfl, rfl⟩

theorem Lexes.trans {text behind rest : List Char} {first second : List Token}
    (hfirst : Lexes text first behind) (hsecond : Lexes behind second rest) :
    Lexes text (first ++ second) rest := by
  obtain ⟨left, rfl, rfl⟩ := hfirst
  obtain ⟨right, rfl, rfl⟩ := hsecond
  exact ⟨left ++ right, by simp [textOf], by simp [tokensOf]⟩

theorem lexes_lexeme (lexeme : Lexeme) (rest : List Char) :
    Lexes (lexeme.text ++ rest) lexeme.token?.toList rest :=
  ⟨[lexeme], by simp [textOf], tokensOf_cons lexeme [] ▸ List.append_nil _⟩

theorem lexes_skipSpaces (text : List Char) : Lexes text [] (skipSpaces text) := by
  induction text with
  | nil => exact .refl []
  | cons c text ih =>
      rw [skipSpaces, List.dropWhile_cons]
      split
      · rename_i hc
        exact (lexes_lexeme (.atom (.blank c hc)) text).trans ih
      · exact .refl (c :: text)

theorem lexes_mark {text rest : List Char} {mark : Mark}
    (htext : skipSpaces text = mark.char :: rest) : Lexes text [.mark mark] rest := by
  have hspaces := lexes_skipSpaces text
  rw [htext] at hspaces
  exact hspaces.trans (lexes_lexeme (.atom (.mark mark)) rest)

/-! ## Readers of tokens -/

theorem text_of_readWord {value found : Json} {letters text rest : List Char}
    (hread : readWord value letters text = .ok (found, rest)) : text = letters ++ rest := by
  induction letters generalizing text with
  | nil => exact (Prod.mk.inj (Except.ok.inj hread)).2
  | cons expected letters ih =>
      cases text with
      | nil => cases hread
      | cons c text =>
          rw [readWord] at hread
          split at hread
          · rename_i hc
            rw [hc, ih hread, List.cons_append]
          · cases hread

theorem lexes_word (word : Word) {text rest behind letters : List Char} {c : Char}
    {value found : Json} (hword : word.text = c :: letters) (htext : skipSpaces text = c :: behind)
    (hread : readWord value letters behind = .ok (found, rest)) :
    Lexes text [.word word] rest := by
  have hspaces := lexes_skipSpaces text
  rw [htext, text_of_readWord hread, ← List.cons_append, ← hword] at hspaces
  exact hspaces.trans (lexes_lexeme (.atom (.word word)) rest)

theorem lexes_string {text rest chars : List Char} (hread : readString text = .ok (chars, rest)) :
    Lexes ('"' :: text) [.string chars] rest := by
  obtain ⟨glyphs, rfl, rfl⟩ := glyphs_of_readString hread
  have hlexes := lexes_lexeme (.string glyphs) rest
  rwa [Lexeme.text, List.cons_append, List.cons_append, List.append_assoc] at hlexes

theorem lexes_number {text rest : List Char} (hnumber : IsNumber text) :
    Lexes (text ++ rest) [.number text] rest :=
  lexes_lexeme (.atom (.number text hnumber)) rest

theorem lexes_colon {text rest : List Char} (hread : readColon text = .ok rest) :
    Lexes text [.mark .colon] rest := by
  unfold readColon at hread
  split at hread
  · cases hread
  · rename_i behind htext
    obtain rfl := Except.ok.inj hread
    exact lexes_mark htext
  · cases hread

/-- The comma in front of every part but the first. -/
def lead (first : Bool) : List Token :=
  if first then [] else [.mark .comma]

theorem lexes_nextItem {first more : Bool} {text rest : List Char}
    (hread : nextItem first text = .ok (more, rest)) :
    Lexes text (if more then lead first else [.mark .closeArray]) rest := by
  unfold nextItem at hread
  split at hread
  · cases hread
  · rename_i behind htext
    obtain ⟨rfl, rfl⟩ := Prod.mk.inj (Except.ok.inj hread)
    exact lexes_mark htext
  split at hread
  · rename_i hfirst
    obtain ⟨rfl, rfl⟩ := Prod.mk.inj (Except.ok.inj hread)
    rw [hfirst]
    exact lexes_skipSpaces text
  rename_i hfirst
  split at hread
  · rename_i behind htext
    split at hread
    · cases hread
    · cases hread
    · obtain ⟨rfl, rfl⟩ := Prod.mk.inj (Except.ok.inj hread)
      simp only [lead, hfirst]
      exact (lexes_mark htext).trans (lexes_skipSpaces behind)
  · cases hread

theorem lexes_nextKey {first more : Bool} {text rest : List Char}
    (hread : nextKey first text = .ok (more, rest)) :
    if more then Lexes text (lead first) ('"' :: rest)
    else Lexes text [.mark .closeObject] rest := by
  unfold nextKey at hread
  split at hread
  · cases hread
  · rename_i behind htext
    obtain ⟨rfl, rfl⟩ := Prod.mk.inj (Except.ok.inj hread)
    exact lexes_mark htext
  split at hread
  · rename_i hfirst
    split at hread
    · rename_i htext
      obtain ⟨rfl, rfl⟩ := Prod.mk.inj (Except.ok.inj hread)
      rw [hfirst, ← htext]
      exact lexes_skipSpaces text
    · cases hread
  rename_i hfirst
  split at hread
  · rename_i behind htext
    split at hread
    · cases hread
    · rename_i hbehind
      obtain ⟨rfl, rfl⟩ := Prod.mk.inj (Except.ok.inj hread)
      simp only [lead, hfirst, ← hbehind]
      exact (lexes_mark htext).trans (lexes_skipSpaces behind)
    · cases hread
    · cases hread
  · cases hread

/-! ## Values -/

/-- What may stand in front of a closing bracket: nothing, or parts, which a comma precedes unless
they are the first ones. -/
def Continues (goal : Goal) (first : Bool) (tokens : List Token) : Prop :=
  tokens = [] ∨ ∃ parts, Derives goal parts ∧ tokens = lead first ++ parts

theorem Continues.items {item others : List Token} (hitem : Derives .value item)
    (hothers : Continues .items false others) : Derives .items (item ++ others) := by
  obtain rfl | ⟨parts, hparts, rfl⟩ := hothers
  · rw [List.append_nil]
    exact .lastItem hitem
  · exact .nextItem hitem hparts

theorem Continues.members {key : List Char} {value others : List Token}
    (hvalue : Derives .value value) (hothers : Continues .members false others) :
    Derives .members (.string key :: .mark .colon :: (value ++ others)) := by
  obtain rfl | ⟨parts, hparts, rfl⟩ := hothers
  · rw [List.append_nil]
    exact .lastMember hvalue
  · exact .nextMember hvalue hparts

theorem Continues.array {tokens : List Token} (htokens : Continues .items true tokens) :
    Derives .value (.mark .openArray :: (tokens ++ [.mark .closeArray])) := by
  obtain rfl | ⟨items, hitems, rfl⟩ := htokens
  · exact .emptyArray
  · exact .array hitems

theorem Continues.object {tokens : List Token} (htokens : Continues .members true tokens) :
    Derives .value (.mark .openObject :: (tokens ++ [.mark .closeObject])) := by
  obtain rfl | ⟨members, hmembers, rfl⟩ := htokens
  · exact .emptyObject
  · exact .object hmembers

/-- What the readers accept within a number of steps is derived. -/
structure ReadersDerive (fuel : Nat) : Prop where
  value : ∀ {depth : Nat} {text rest : List Char} {value : Json},
    readValue fuel depth text = .ok (value, rest) →
    ∃ tokens, Lexes text tokens rest ∧ Derives .value tokens
  items : ∀ {depth : Nat} {first : Bool} {text rest : List Char} {items : List Json},
    readItems fuel depth first text = .ok (items, rest) →
    ∃ tokens, Lexes text (tokens ++ [.mark .closeArray]) rest ∧ Continues .items first tokens
  members : ∀ {depth : Nat} {first : Bool} {text rest : List Char} {members : Members},
    readMembers fuel depth first text = .ok (members, rest) →
    ∃ tokens, Lexes text (tokens ++ [.mark .closeObject]) rest ∧ Continues .members first tokens

namespace ReadersDerive

variable {fuel depth : Nat} {text rest : List Char}

theorem value_succ (hderive : ReadersDerive fuel) {value : Json}
    (hread : readValue (fuel + 1) depth text = .ok (value, rest)) :
    ∃ tokens, Lexes text tokens rest ∧ Derives .value tokens := by
  -- every token is read behind the blanks in front of it
  have hspaces := lexes_skipSpaces text
  rw [readValue] at hread
  split at hread
  · cases hread
  · rename_i htext
    exact ⟨_, lexes_word .null rfl htext hread, .scalar rfl⟩
  · rename_i htext
    exact ⟨_, lexes_word (.bool true) rfl htext hread, .scalar rfl⟩
  · rename_i htext
    exact ⟨_, lexes_word (.bool false) rfl htext hread, .scalar rfl⟩
  · rename_i behind htext
    obtain ⟨⟨chars, left⟩, hstring, hvalue⟩ := bind_eq_ok hread
    cases hvalue
    rw [htext] at hspaces
    exact ⟨_, hspaces.trans (lexes_string hstring), .scalar rfl⟩
  · rename_i behind htext
    obtain ⟨⟨number, left⟩, hnumber, hvalue⟩ := bind_eq_ok hread
    cases hvalue
    obtain ⟨magnitude, hmagnitude, rfl⟩ := magnitude_of_readNumber hnumber
    rw [htext] at hspaces
    exact ⟨_, hspaces.trans (lexes_number (.negative hmagnitude)), .scalar rfl⟩
  · rename_i behind htext
    split at hread
    · cases hread
    · obtain ⟨⟨items, left⟩, hitems, hvalue⟩ := bind_eq_ok hread
      cases hvalue
      obtain ⟨tokens, hlexes, htokens⟩ := hderive.items hitems
      exact ⟨_, (lexes_mark htext).trans hlexes, htokens.array⟩
  · rename_i behind htext
    split at hread
    · cases hread
    · obtain ⟨⟨members, left⟩, hmembers, hvalue⟩ := bind_eq_ok hread
      cases hvalue
      obtain ⟨tokens, hlexes, htokens⟩ := hderive.members hmembers
      exact ⟨_, (lexes_mark htext).trans hlexes, htokens.object⟩
  · rename_i htext
    split at hread
    · obtain ⟨⟨number, left⟩, hnumber, hvalue⟩ := bind_eq_ok hread
      cases hvalue
      obtain ⟨magnitude, hmagnitude, hbehind⟩ := magnitude_of_readNumber hnumber
      rw [htext, hbehind] at hspaces
      exact ⟨_, hspaces.trans (lexes_number (.positive hmagnitude)), .scalar rfl⟩
    · cases hread

theorem items_succ (hderive : ReadersDerive fuel) {first : Bool} {items : List Json}
    (hread : readItems (fuel + 1) depth first text = .ok (items, rest)) :
    ∃ tokens, Lexes text (tokens ++ [.mark .closeArray]) rest ∧
      Continues .items first tokens := by
  rw [readItems] at hread
  obtain ⟨⟨more, behind⟩, hnext, hmore⟩ := bind_eq_ok hread
  have hlead := lexes_nextItem hnext
  cases more with
  | false =>
      cases hmore
      exact ⟨[], hlead, Or.inl rfl⟩
  | true =>
      obtain ⟨⟨item, afterItem⟩, hitem, hothers⟩ := bind_eq_ok hmore
      obtain ⟨⟨others, left⟩, hothers, hitems⟩ := bind_eq_ok hothers
      cases hitems
      obtain ⟨itemTokens, hitemLexes, hitemDerives⟩ := hderive.value hitem
      obtain ⟨otherTokens, hotherLexes, hcontinues⟩ := hderive.items hothers
      refine ⟨lead first ++ (itemTokens ++ otherTokens), ?_,
        Or.inr ⟨_, hcontinues.items hitemDerives, rfl⟩⟩
      rw [List.append_assoc, List.append_assoc]
      exact hlead.trans (hitemLexes.trans hotherLexes)

theorem members_succ (hderive : ReadersDerive fuel) {first : Bool} {members : Members}
    (hread : readMembers (fuel + 1) depth first text = .ok (members, rest)) :
    ∃ tokens, Lexes text (tokens ++ [.mark .closeObject]) rest ∧
      Continues .members first tokens := by
  rw [readMembers] at hread
  obtain ⟨⟨more, behind⟩, hnext, hmore⟩ := bind_eq_ok hread
  have hlead := lexes_nextKey hnext
  cases more with
  | false =>
      cases hmore
      exact ⟨[], hlead, Or.inl rfl⟩
  | true =>
      obtain ⟨⟨key, afterKey⟩, hkey, hread⟩ := bind_eq_ok hmore
      obtain ⟨afterColon, hcolon, hread⟩ := bind_eq_ok hread
      obtain ⟨⟨value, afterValue⟩, hvalue, hread⟩ := bind_eq_ok hread
      obtain ⟨⟨others, left⟩, hothers, hmembers⟩ := bind_eq_ok hread
      cases hmembers
      obtain ⟨valueTokens, hvalueLexes, hvalueDerives⟩ := hderive.value hvalue
      obtain ⟨otherTokens, hotherLexes, hcontinues⟩ := hderive.members hothers
      refine ⟨lead first ++ (.string key :: .mark .colon :: (valueTokens ++ otherTokens)), ?_,
        Or.inr ⟨_, hcontinues.members hvalueDerives, rfl⟩⟩
      have hmember := (lexes_string hkey).trans
        ((lexes_colon hcolon).trans (hvalueLexes.trans hotherLexes))
      rw [List.append_assoc]
      simpa using hlead.trans hmember

end ReadersDerive

theorem readersDerive (fuel : Nat) : ReadersDerive fuel := by
  induction fuel with
  | zero =>
      refine ⟨?_, ?_, ?_⟩
      · intro depth text rest value hread
        cases hread
      · intro depth first text rest items hread
        cases hread
      · intro depth first text rest members hread
        cases hread
  | succ fuel ih => exact ⟨ih.value_succ, ih.items_succ, ih.members_succ⟩

/-- A text that is read is the text of a document. -/
theorem exists_document_of_parse {text : String} {value : Json} (hparse : parse text = .ok value) :
    ∃ document, IsDocument document ∧ textOf document = text.toList := by
  obtain ⟨rest, hread, hrest⟩ := (parse_eq_ok_iff text value).mp hparse
  obtain ⟨tokens, hlexes, htokens⟩ := (readersDerive _).value hread
  have hspaces := lexes_skipSpaces rest
  rw [hrest] at hspaces
  obtain ⟨document, htext, hdocument⟩ := hlexes.trans hspaces
  rw [List.append_nil] at htext hdocument
  exact ⟨document, by rwa [IsDocument, hdocument], htext.symm⟩

end Json

end Toolbench
