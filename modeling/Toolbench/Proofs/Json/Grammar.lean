import Mathlib.Data.List.Forall2
import Toolbench.Json.Parser

/-!
# The grammar of JSON

A document is a list of lexemes. A lexeme has a text and, unless it is a blank, a token; a
document is one whose tokens derive a value. The lexemes carry the proofs that they are well
formed, so a list of them has no other condition to meet.
-/

namespace Toolbench

namespace Json

/-! ## Numbers -/

def isDigits (text : List Char) : Bool :=
  !text.isEmpty && text.all Char.isDigit

/-- The digits before a point: a zero alone, or digits that start with another one. -/
def isWhole (text : List Char) : Bool :=
  text = ['0'] || (isDigits text && text.head? != some '0')

/-- A point and digits, or nothing. -/
inductive IsFraction : List Char → Prop
  | none : IsFraction []
  | some {digits : List Char} (hdigits : isDigits digits) : IsFraction ('.' :: digits)

/-- The letter e, a sign or none, and digits, or nothing. -/
inductive IsExponent : List Char → Prop
  | none : IsExponent []
  | plain {letter : Char} {digits : List Char} (hletter : letter = 'e' ∨ letter = 'E')
      (hdigits : isDigits digits) : IsExponent (letter :: digits)
  | signed {letter sign : Char} {digits : List Char} (hletter : letter = 'e' ∨ letter = 'E')
      (hsign : sign = '+' ∨ sign = '-') (hdigits : isDigits digits) :
      IsExponent (letter :: sign :: digits)

/-- The text of a number without its sign. -/
inductive IsMagnitude : List Char → Prop
  | intro {whole fraction exponent : List Char} (hwhole : isWhole whole)
      (hfraction : IsFraction fraction) (hexponent : IsExponent exponent) :
      IsMagnitude (whole ++ fraction ++ exponent)

/-- The text of a number. -/
inductive IsNumber : List Char → Prop
  | positive {text : List Char} (htext : IsMagnitude text) : IsNumber text
  | negative {text : List Char} (htext : IsMagnitude text) : IsNumber ('-' :: text)

/-! ## String literals -/

/-- The characters that stand for themselves in a string literal. -/
def isUnescaped (c : Char) : Bool :=
  c != '"' && c != '\\' && 0x20 ≤ c.toNat

/-- The character that a letter behind a backslash stands for. -/
def shortEscape? : Char → Option Char
  | '"' => some '"'
  | '\\' => some '\\'
  | '/' => some '/'
  | 'b' => some (Char.ofNat 0x8)
  | 'f' => some (Char.ofNat 0xC)
  | 'n' => some '\n'
  | 'r' => some '\r'
  | 't' => some '\t'
  | _ => none

/-- The number that four hexadecimal digits spell. -/
def code? : List Char → Option Nat
  | [a, b, c, d] => do
      let a ← Text.Hex.value? a
      let b ← Text.Hex.value? b
      let c ← Text.Hex.value? c
      let d ← Text.Hex.value? d
      pure (((a * 16 + b) * 16 + c) * 16 + d)
  | _ => none

def isLeading (code : Nat) : Bool :=
  0xD800 ≤ code && code ≤ 0xDBFF

def isTrailing (code : Nat) : Bool :=
  0xDC00 ≤ code && code ≤ 0xDFFF

/-- A character as a string literal spells it. Half a surrogate pair stands for no character. -/
inductive Glyph where
  | plain (c : Char) (hplain : isUnescaped c)
  | short (letter c : Char) (hshort : shortEscape? letter = some c)
  | code (digits : List Char) (n : Nat) (hcode : code? digits = some n)
      (hwhole : isLeading n = false ∧ isTrailing n = false)
  | pair (first second : List Char) (high low : Nat) (hfirst : code? first = some high)
      (hsecond : code? second = some low) (hpair : isLeading high ∧ isTrailing low)

namespace Glyph

def text : Glyph → List Char
  | .plain c _ => [c]
  | .short letter _ _ => ['\\', letter]
  | .code digits _ _ _ => '\\' :: 'u' :: digits
  | .pair first second _ _ _ _ _ => '\\' :: 'u' :: first ++ '\\' :: 'u' :: second

def char : Glyph → Char
  | .plain c _ => c
  | .short _ c _ => c
  | .code _ n _ _ => Char.ofNat n
  | .pair _ _ high low _ _ _ => Char.ofNat ((high - 0xD800) * 0x400 + (low - 0xDC00) + 0x10000)

end Glyph

/-! ## Lexemes and tokens -/

/-- A bracket, a colon or a comma. -/
inductive Mark where
  | openArray
  | closeArray
  | openObject
  | closeObject
  | colon
  | comma
deriving DecidableEq

def Mark.char : Mark → Char
  | .openArray => '['
  | .closeArray => ']'
  | .openObject => '{'
  | .closeObject => '}'
  | .colon => ':'
  | .comma => ','

inductive Word where
  | null
  | bool (value : Bool)
deriving DecidableEq

def Word.text : Word → List Char
  | .null => ['n', 'u', 'l', 'l']
  | .bool true => ['t', 'r', 'u', 'e']
  | .bool false => ['f', 'a', 'l', 's', 'e']

/-- What a lexeme means: a string by its characters, a number by its text. -/
inductive Token where
  | mark (mark : Mark)
  | word (word : Word)
  | number (text : List Char)
  | string (text : List Char)
deriving DecidableEq

def Token.isScalar : Token → Bool
  | .mark _ => false
  | _ => true

/-- A lexeme that is no string literal. -/
inductive Atom where
  | blank (c : Char) (hblank : isSpace c)
  | mark (mark : Mark)
  | word (word : Word)
  | number (text : List Char) (hnumber : IsNumber text)

namespace Atom

def text : Atom → List Char
  | .blank c _ => [c]
  | .mark m => [m.char]
  | .word w => w.text
  | .number text _ => text

def token? : Atom → Option Token
  | .blank _ _ => none
  | .mark m => some (.mark m)
  | .word w => some (.word w)
  | .number text _ => some (.number text)

end Atom

/-- A piece of a document. -/
inductive Lexeme where
  | atom (atom : Atom)
  | string (glyphs : List Glyph)

namespace Lexeme

/-- The text of a lexeme, of a string with its quotes. -/
def text : Lexeme → List Char
  | .atom a => a.text
  | .string glyphs => '"' :: glyphs.flatMap Glyph.text ++ ['"']

def token? : Lexeme → Option Token
  | .atom a => a.token?
  | .string glyphs => some (.string (glyphs.map Glyph.char))

end Lexeme

def textOf (lexemes : List Lexeme) : List Char :=
  lexemes.flatMap Lexeme.text

def tokensOf (lexemes : List Lexeme) : List Token :=
  lexemes.filterMap Lexeme.token?

/-! ## Characters of lexemes -/

theorem exists_glyph_text (glyph : Glyph) : ∃ c rest, glyph.text = c :: rest := by
  cases glyph with
  | plain c => exact ⟨c, [], rfl⟩
  | short letter => exact ⟨'\\', [letter], rfl⟩
  | code digits => exact ⟨'\\', 'u' :: digits, rfl⟩
  | pair first second => exact ⟨'\\', 'u' :: first ++ '\\' :: 'u' :: second, rfl⟩

/-- The characters that numbers are written with. -/
def isNumeral (c : Char) : Bool :=
  c.isDigit || ['-', '+', '.', 'e', 'E'].contains c

theorem all_isNumeral_of_isDigits {text : List Char} (hdigits : isDigits text) :
    text.all isNumeral := by
  simp only [isDigits, Bool.and_eq_true, List.all_eq_true] at hdigits ⊢
  exact fun c hc => by simp [isNumeral, hdigits.2 c hc]

theorem all_isNumeral_of_isWhole {text : List Char} (hwhole : isWhole text) :
    text.all isNumeral := by
  simp only [isWhole, Bool.or_eq_true, Bool.and_eq_true, decide_eq_true_eq] at hwhole
  rcases hwhole with rfl | ⟨hdigits, -⟩
  · decide
  · exact all_isNumeral_of_isDigits hdigits

theorem ne_nil_of_isWhole {text : List Char} (hwhole : isWhole text) : text ≠ [] := by
  rintro rfl
  cases hwhole

theorem all_isNumeral_of_isFraction {text : List Char} (hfraction : IsFraction text) :
    text.all isNumeral := by
  cases hfraction with
  | none => rfl
  | some hdigits =>
      rw [List.all_cons, all_isNumeral_of_isDigits hdigits]
      decide

theorem all_isNumeral_of_isExponent {text : List Char} (hexponent : IsExponent text) :
    text.all isNumeral := by
  cases hexponent with
  | none => rfl
  | plain hletter hdigits =>
      rw [List.all_cons, all_isNumeral_of_isDigits hdigits]
      rcases hletter with rfl | rfl <;> decide
  | signed hletter hsign hdigits =>
      rw [List.all_cons, List.all_cons, all_isNumeral_of_isDigits hdigits]
      rcases hletter with rfl | rfl <;> rcases hsign with rfl | rfl <;> decide

theorem ne_nil_of_isNumber {text : List Char} (hnumber : IsNumber text) : text ≠ [] := by
  cases hnumber with
  | positive hmagnitude =>
      cases hmagnitude with
      | intro hwhole => simp [ne_nil_of_isWhole hwhole]
  | negative => exact List.cons_ne_nil _ _

theorem all_isNumeral_of_isMagnitude {text : List Char} (hmagnitude : IsMagnitude text) :
    text.all isNumeral := by
  cases hmagnitude with
  | intro hwhole hfraction hexponent =>
      rw [List.all_append, List.all_append, all_isNumeral_of_isWhole hwhole,
        all_isNumeral_of_isFraction hfraction, all_isNumeral_of_isExponent hexponent]
      rfl

theorem all_isNumeral_of_isNumber {text : List Char} (hnumber : IsNumber text) :
    text.all isNumeral := by
  cases hnumber with
  | positive hmagnitude => exact all_isNumeral_of_isMagnitude hmagnitude
  | negative hmagnitude =>
      rw [List.all_cons, all_isNumeral_of_isMagnitude hmagnitude]
      decide

theorem not_mem_of_isNumber {text : List Char} {c : Char} (hnumber : IsNumber text)
    (hc : isNumeral c = false) : c ∉ text := by
  intro hmem
  have hnumeral := List.all_eq_true.mp (all_isNumeral_of_isNumber hnumber) c hmem
  rw [hc] at hnumeral
  cases hnumeral

/-- No atom but null starts with the letter n, and none has one further on. -/
theorem exists_atom_text (atom : Atom) :
    ∃ c rest, atom.text = c :: rest ∧ 'n' ∉ rest ∧ (c = 'n' → atom = .word .null) := by
  cases atom with
  | blank c hblank =>
      refine ⟨c, [], rfl, List.not_mem_nil, ?_⟩
      rintro rfl
      exact absurd hblank (by decide)
  | mark mark =>
      refine ⟨mark.char, [], rfl, List.not_mem_nil, fun hn => ?_⟩
      cases mark <;> exact absurd hn (by decide)
  | word word =>
      rcases word with - | value
      · exact ⟨'n', ['u', 'l', 'l'], rfl, by decide, fun _ => rfl⟩
      · cases value with
        | false =>
            exact ⟨'f', ['a', 'l', 's', 'e'], rfl, by decide, fun hn => absurd hn (by decide)⟩
        | true =>
            exact ⟨'t', ['r', 'u', 'e'], rfl, by decide, fun hn => absurd hn (by decide)⟩
  | number text hnumber =>
      have hnone : 'n' ∉ text := not_mem_of_isNumber hnumber (by decide)
      obtain ⟨c, rest, rfl⟩ := List.exists_cons_of_ne_nil (ne_nil_of_isNumber hnumber)
      refine ⟨c, rest, rfl, fun hmem => hnone (List.mem_cons_of_mem _ hmem), ?_⟩
      rintro rfl
      exact absurd List.mem_cons_self hnone

theorem quote_not_mem_atom_text (atom : Atom) : '"' ∉ atom.text := by
  cases atom with
  | blank c hblank =>
      intro hmem
      obtain rfl := List.mem_singleton.mp hmem
      exact absurd hblank (by decide)
  | mark mark => cases mark <;> decide
  | word word =>
      rcases word with - | value
      · decide
      · cases value <;> decide
  | number text hnumber => exact not_mem_of_isNumber hnumber (by decide)

theorem lexeme_text_ne_nil (lexeme : Lexeme) : lexeme.text ≠ [] := by
  cases lexeme with
  | atom atom =>
      obtain ⟨c, text, htext, -, -⟩ := exists_atom_text atom
      simp [Lexeme.text, htext]
  | string glyphs => exact List.cons_ne_nil _ _

theorem textOf_cons (lexeme : Lexeme) (rest : List Lexeme) :
    textOf (lexeme :: rest) = lexeme.text ++ textOf rest :=
  List.flatMap_cons

theorem textOf_cons_ne_nil (lexeme : Lexeme) (rest : List Lexeme) :
    textOf (lexeme :: rest) ≠ [] := by
  rw [textOf_cons]
  exact List.append_ne_nil_of_left_ne_nil (lexeme_text_ne_nil lexeme) _

theorem tokensOf_cons (lexeme : Lexeme) (rest : List Lexeme) :
    tokensOf (lexeme :: rest) = lexeme.token?.toList ++ tokensOf rest := by
  rw [tokensOf, List.filterMap_cons]
  cases lexeme.token? <;> rfl

/-! ## Derivations -/

/-- What tokens are derived from. -/
inductive Goal where
  | value
  | items
  | members

inductive Derives : Goal → List Token → Prop
  | scalar {token : Token} (hscalar : token.isScalar) : Derives .value [token]
  | emptyArray : Derives .value [.mark .openArray, .mark .closeArray]
  | array {items : List Token} (hitems : Derives .items items) :
      Derives .value (.mark .openArray :: (items ++ [.mark .closeArray]))
  | emptyObject : Derives .value [.mark .openObject, .mark .closeObject]
  | object {members : List Token} (hmembers : Derives .members members) :
      Derives .value (.mark .openObject :: (members ++ [.mark .closeObject]))
  | lastItem {item : List Token} (hitem : Derives .value item) : Derives .items item
  | nextItem {item items : List Token} (hitem : Derives .value item)
      (hitems : Derives .items items) : Derives .items (item ++ .mark .comma :: items)
  | lastMember {key : List Char} {value : List Token} (hvalue : Derives .value value) :
      Derives .members (.string key :: .mark .colon :: value)
  | nextMember {key : List Char} {value members : List Token} (hvalue : Derives .value value)
      (hmembers : Derives .members members) :
      Derives .members (.string key :: .mark .colon :: (value ++ .mark .comma :: members))

/-- Lexemes whose tokens are one value. -/
def IsDocument (lexemes : List Lexeme) : Prop :=
  Derives .value (tokensOf lexemes)

/-- A token that may stand where another one does: the same, a string for a string, or a value
that has no parts for null. -/
inductive Replaces : Token → Token → Prop
  | same (token : Token) : Replaces token token
  | string (new old : List Char) : Replaces (.string new) (.string old)
  | null {new : Token} (hscalar : new.isScalar) : Replaces new (.word .null)

theorem eq_of_replaces_mark {new : Token} {mark : Mark} (hreplaces : Replaces new (.mark mark)) :
    new = .mark mark := by
  cases hreplaces
  rfl

theorem exists_of_replaces_string {new : Token} {old : List Char}
    (hreplaces : Replaces new (.string old)) : ∃ text, new = .string text := by
  cases hreplaces with
  | same => exact ⟨old, rfl⟩
  | string text => exact ⟨text, rfl⟩

theorem isScalar_of_replaces {new old : Token} (hreplaces : Replaces new old)
    (hscalar : old.isScalar) : new.isScalar := by
  cases hreplaces with
  | same => exact hscalar
  | string => rfl
  | null hnew => exact hnew

theorem exists_of_forall₂_mark_cons {new rest : List Token} {mark : Mark}
    (hreplaces : List.Forall₂ Replaces new (.mark mark :: rest)) :
    ∃ newRest, new = .mark mark :: newRest ∧ List.Forall₂ Replaces newRest rest := by
  obtain ⟨token, newRest, htoken, hrest, rfl⟩ := List.forall₂_cons_right_iff.mp hreplaces
  obtain rfl := eq_of_replaces_mark htoken
  exact ⟨newRest, rfl, hrest⟩

theorem exists_of_forall₂_append_mark {new left right : List Token} {mark : Mark}
    (hreplaces : List.Forall₂ Replaces new (left ++ .mark mark :: right)) :
    ∃ newLeft newRight, new = newLeft ++ .mark mark :: newRight ∧
      List.Forall₂ Replaces newLeft left ∧ List.Forall₂ Replaces newRight right := by
  have hleft := List.forall₂_take_append new left (.mark mark :: right) hreplaces
  have hbehind := List.forall₂_drop_append new left (.mark mark :: right) hreplaces
  obtain ⟨newRight, hdrop, hright⟩ := exists_of_forall₂_mark_cons hbehind
  exact ⟨new.take left.length, newRight, by rw [← hdrop, List.take_append_drop], hleft, hright⟩

theorem exists_of_forall₂_member {new rest : List Token} {key : List Char}
    (hreplaces : List.Forall₂ Replaces new (.string key :: .mark .colon :: rest)) :
    ∃ newKey newRest, new = .string newKey :: .mark .colon :: newRest ∧
      List.Forall₂ Replaces newRest rest := by
  obtain ⟨token, behind, htoken, hbehind, rfl⟩ := List.forall₂_cons_right_iff.mp hreplaces
  obtain ⟨newKey, rfl⟩ := exists_of_replaces_string htoken
  obtain ⟨newRest, rfl, hrest⟩ := exists_of_forall₂_mark_cons hbehind
  exact ⟨newKey, newRest, rfl, hrest⟩

/-- A derivation carries over to tokens that may stand where its own do. -/
theorem Derives.of_replaces {goal : Goal} {new old : List Token} (hderives : Derives goal old)
    (hreplaces : List.Forall₂ Replaces new old) : Derives goal new := by
  induction hderives generalizing new with
  | scalar hscalar =>
      obtain ⟨token, rest, htoken, hrest, rfl⟩ := List.forall₂_cons_right_iff.mp hreplaces
      obtain rfl := List.forall₂_nil_right_iff.mp hrest
      exact .scalar (isScalar_of_replaces htoken hscalar)
  | emptyArray =>
      obtain ⟨behind, rfl, hbehind⟩ := exists_of_forall₂_mark_cons hreplaces
      obtain ⟨rest, rfl, hrest⟩ := exists_of_forall₂_mark_cons hbehind
      obtain rfl := List.forall₂_nil_right_iff.mp hrest
      exact .emptyArray
  | array hitems ih =>
      obtain ⟨behind, rfl, hbehind⟩ := exists_of_forall₂_mark_cons hreplaces
      obtain ⟨newItems, rest, rfl, hnew, hrest⟩ := exists_of_forall₂_append_mark hbehind
      obtain rfl := List.forall₂_nil_right_iff.mp hrest
      exact .array (ih hnew)
  | emptyObject =>
      obtain ⟨behind, rfl, hbehind⟩ := exists_of_forall₂_mark_cons hreplaces
      obtain ⟨rest, rfl, hrest⟩ := exists_of_forall₂_mark_cons hbehind
      obtain rfl := List.forall₂_nil_right_iff.mp hrest
      exact .emptyObject
  | object hmembers ih =>
      obtain ⟨behind, rfl, hbehind⟩ := exists_of_forall₂_mark_cons hreplaces
      obtain ⟨newMembers, rest, rfl, hnew, hrest⟩ := exists_of_forall₂_append_mark hbehind
      obtain rfl := List.forall₂_nil_right_iff.mp hrest
      exact .object (ih hnew)
  | lastItem hitem ih =>
      exact .lastItem (ih hreplaces)
  | nextItem hitem hitems ihItem ihItems =>
      obtain ⟨newItem, newItems, rfl, hnewItem, hnewItems⟩ :=
        exists_of_forall₂_append_mark hreplaces
      exact .nextItem (ihItem hnewItem) (ihItems hnewItems)
  | lastMember hvalue ih =>
      obtain ⟨newKey, newValue, rfl, hnew⟩ := exists_of_forall₂_member hreplaces
      exact .lastMember (ih hnew)
  | nextMember hvalue hmembers ihValue ihMembers =>
      obtain ⟨newKey, behind, rfl, hbehind⟩ := exists_of_forall₂_member hreplaces
      obtain ⟨newValue, newMembers, rfl, hnewValue, hnewMembers⟩ :=
        exists_of_forall₂_append_mark hbehind
      exact .nextMember (ihValue hnewValue) (ihMembers hnewMembers)

/-! ## Places -/

/-- Where in a document a position is: a position in front of a character of a string literal, or
of its closing quote, is in the string. -/
inductive Place where
  | outside
  | inString
  | inEscape
deriving DecidableEq

/-- Where a position behind the opening quote of a string literal is. -/
def placeInString : List Glyph → Nat → Place
  | [], 0 => .inString
  | [], _ + 1 => .outside
  | glyph :: rest, position =>
      if position = 0 then .inString
      else if position < glyph.text.length then .inEscape
      else placeInString rest (position - glyph.text.length)

/-- Where a position in a lexeme is. -/
def Lexeme.place : Lexeme → Nat → Place
  | .atom _, _ => .outside
  | .string _, 0 => .outside
  | .string glyphs, position + 1 => placeInString glyphs position

/-- Where a position in a document is. -/
def place : List Lexeme → Nat → Place
  | [], _ => .outside
  | lexeme :: rest, position =>
      if position < lexeme.text.length then lexeme.place position
      else place rest (position - lexeme.text.length)

theorem placeInString_zero (glyphs : List Glyph) : placeInString glyphs 0 = .inString := by
  cases glyphs <;> simp [placeInString]

theorem placeInString_of_lt {glyph : Glyph} {rest : List Glyph} {position : Nat}
    (hpos : 0 < position) (hlt : position < glyph.text.length) :
    placeInString (glyph :: rest) position = .inEscape := by
  rw [placeInString, if_neg (by omega), if_pos hlt]

theorem placeInString_length_add (glyph : Glyph) (rest : List Glyph) (position : Nat) :
    placeInString (glyph :: rest) (glyph.text.length + position) = placeInString rest position := by
  obtain ⟨c, text, htext⟩ := exists_glyph_text glyph
  have hnonzero : glyph.text.length + position ≠ 0 := by
    simp [htext]
  rw [placeInString, if_neg hnonzero, if_neg (by omega), Nat.add_sub_cancel_left]

theorem place_of_lt {lexeme : Lexeme} {rest : List Lexeme} {position : Nat}
    (hlt : position < lexeme.text.length) :
    place (lexeme :: rest) position = lexeme.place position := by
  rw [place, if_pos hlt]

theorem place_length_add (lexeme : Lexeme) (rest : List Lexeme) (position : Nat) :
    place (lexeme :: rest) (lexeme.text.length + position) = place rest position := by
  rw [place, if_neg (by omega), Nat.add_sub_cancel_left]

theorem place_zero (lexemes : List Lexeme) : place lexemes 0 = .outside := by
  cases lexemes with
  | nil => rfl
  | cons lexeme rest =>
      rw [place_of_lt (List.length_pos_of_ne_nil (lexeme_text_ne_nil lexeme))]
      cases lexeme <;> rfl

end Json

end Toolbench
