import Toolbench.Template.Basic
import Toolbench.Proofs.Json.Grammar

/-!
# Placeholders in a document

A placeholder inside a string literal stands for nothing and any other one for null. Where each
of them stands at a place that suits it, the template is made of the lexemes of a document, some
of which have holes.
-/

namespace Toolbench

namespace Body

open Json (Glyph Atom Lexeme Place place placeInString textOf exists_glyph_text exists_atom_text
  placeInString_zero placeInString_of_lt placeInString_length_add place_zero place_of_lt
  place_length_add)

/-! ## Slots -/

/-- A piece of a template, where a placeholder stands inside a string literal or elsewhere. -/
inductive Slot where
  | char (c : Char)
  | quoted (name : List Char)
  | bare (name : List Char)
deriving DecidableEq

namespace Slot

def piece : Slot → Piece
  | .char c => .char c
  | .quoted name => .placeholder name
  | .bare name => .placeholder name

/-- What a slot leaves in the document. -/
def blank : Slot → List Char
  | .char c => [c]
  | .quoted _ => []
  | .bare _ => ['n', 'u', 'l', 'l']

/-- Whether a slot may stand at a place. -/
def suits : Slot → Place → Bool
  | .char _, _ => true
  | .quoted _, place => place = .inString
  | .bare _, place => place = .outside

end Slot

/-- The places from a position on. -/
def shift (places : Nat → Place) (count : Nat) : Nat → Place :=
  fun position => places (count + position)

/-- Whether slots suit the places at which they stand. -/
def suit (places : Nat → Place) : List Slot → Bool
  | [] => true
  | slot :: rest => slot.suits (places 0) && suit (shift places slot.blank.length) rest

theorem shift_zero (places : Nat → Place) : shift places 0 = places := by
  funext position
  rw [shift, Nat.zero_add]

theorem shift_shift (places : Nat → Place) (first second : Nat) :
    shift (shift places first) second = shift places (first + second) := by
  funext position
  rw [shift, shift, shift, Nat.add_assoc]

/-- The pieces that slots are. -/
def piecesOf (slots : List Slot) : List Piece :=
  slots.map Slot.piece

theorem piecesOf_append (left right : List Slot) :
    piecesOf (left ++ right) = piecesOf left ++ piecesOf right :=
  List.map_append

theorem piecesOf_chars (text : List Char) : piecesOf (text.map .char) = text.map .char := by
  rw [piecesOf, List.map_map]
  rfl

/-- A document that a template becomes once its placeholders stand for nothing inside string
literals and for null elsewhere. None of them stands in an escape sequence. -/
structure Outline (template : String) where
  slots : List Slot
  document : List Lexeme
  pieces_eq : piecesOf slots = Template.pieces template
  text_eq : slots.flatMap Slot.blank = textOf document
  suited : suit (place document) slots
  derived : Json.IsDocument document

/-! ## Parts -/

/-- A character of a string literal, or a hole between two of them. -/
inductive Fragment where
  | glyph (glyph : Glyph)
  | hole (name : List Char)

namespace Fragment

def slots : Fragment → List Slot
  | .glyph g => g.text.map .char
  | .hole name => [.quoted name]

/-- The character of a fragment that is no hole. -/
def glyph? : Fragment → Option Glyph
  | .glyph g => some g
  | .hole _ => none

end Fragment

/-- A lexeme of a template: a string literal may have holes, and a value may be one. -/
inductive Part where
  | atom (atom : Atom)
  | string (fragments : List Fragment)
  | hole (name : List Char)

namespace Part

def slots : Part → List Slot
  | .atom a => a.text.map .char
  | .string fragments => .char '"' :: (fragments.flatMap Fragment.slots ++ [.char '"'])
  | .hole name => [.bare name]

/-- The lexeme that a part leaves in the document. -/
def lexeme : Part → Lexeme
  | .atom a => .atom a
  | .string fragments => .string (fragments.filterMap Fragment.glyph?)
  | .hole _ => .atom (.word .null)

end Part

/-! ## From slots to parts -/

theorem exists_chars {text tail : List Char} {slots : List Slot} {places : Nat → Place}
    (htext : slots.flatMap Slot.blank = text ++ tail) (hsuit : suit places slots)
    (hplaces : ∀ position < text.length, places position = .inEscape ∨
      (places position = .outside ∧ 'n' ∉ text)) :
    ∃ rest, slots = text.map .char ++ rest ∧ rest.flatMap Slot.blank = tail ∧
      suit (shift places text.length) rest := by
  induction text generalizing slots places with
  | nil =>
      exact ⟨slots, rfl, htext, by rwa [List.length_nil, shift_zero]⟩
  | cons c text ih =>
      have hfirst := hplaces 0 (by simp)
      cases slots with
      | nil => cases htext
      | cons slot others =>
          simp only [suit, Bool.and_eq_true] at hsuit
          obtain ⟨hslot, hothers⟩ := hsuit
          cases slot with
          | char d =>
              obtain ⟨rfl, hbehind⟩ := List.cons_eq_cons.mp htext
              obtain ⟨rest, rfl, htail, hrest⟩ := ih hbehind hothers fun position hposition => by
                rcases hplaces (1 + position) (by simp; omega) with hescape | ⟨hplace, hnone⟩
                · exact Or.inl hescape
                · exact Or.inr ⟨hplace, fun hmem => hnone (List.mem_cons_of_mem _ hmem)⟩
              have hlength : (Slot.char d).blank.length + text.length = (d :: text).length := by
                simp [Slot.blank, Nat.add_comm]
              rw [shift_shift, hlength] at hrest
              exact ⟨rest, rfl, htail, hrest⟩
          | quoted name =>
              have hplace : places 0 = .inString := by
                simpa [Slot.suits] using hslot
              simp [hplace] at hfirst
          | bare name =>
              have hplace : places 0 = .outside := by
                simpa [Slot.suits] using hslot
              obtain ⟨rfl, -⟩ := List.cons_eq_cons.mp htext
              simp [hplace] at hfirst

theorem exists_holes {c : Char} {tail : List Char} {slots : List Slot} {places : Nat → Place}
    (htext : slots.flatMap Slot.blank = c :: tail) (hsuit : suit places slots)
    (hplace : places 0 = .inString) :
    ∃ (names : List (List Char)) (rest : List Slot),
      slots = names.map .quoted ++ .char c :: rest ∧ rest.flatMap Slot.blank = tail ∧
        suit (shift places 1) rest := by
  induction slots with
  | nil => cases htext
  | cons slot others ih =>
      simp only [suit, Bool.and_eq_true] at hsuit
      obtain ⟨hslot, hothers⟩ := hsuit
      cases slot with
      | char d =>
          obtain ⟨rfl, hbehind⟩ := List.cons_eq_cons.mp htext
          exact ⟨[], others, rfl, hbehind, hothers⟩
      | quoted name =>
          rw [Slot.blank, List.length_nil, shift_zero] at hothers
          obtain ⟨names, rest, rfl, htail, hrest⟩ := ih htext hothers
          exact ⟨name :: names, rest, rfl, htail, hrest⟩
      | bare name =>
          simp [Slot.suits, hplace] at hslot

theorem flatMap_slots_holes (names : List (List Char)) :
    (names.map Fragment.hole).flatMap Fragment.slots = names.map .quoted := by
  induction names with
  | nil => rfl
  | cons name names ih => simp [Fragment.slots, ih]

/-- The slots of a string literal are its characters and holes between them. -/
theorem exists_fragments {glyphs : List Glyph} {tail : List Char} {slots : List Slot}
    {places : Nat → Place}
    (htext : slots.flatMap Slot.blank = glyphs.flatMap Glyph.text ++ '"' :: tail)
    (hsuit : suit places slots)
    (hplaces : ∀ position ≤ (glyphs.flatMap Glyph.text).length,
      places position = placeInString glyphs position) :
    ∃ (fragments : List Fragment) (rest : List Slot),
      slots = fragments.flatMap Fragment.slots ++ .char '"' :: rest ∧
      fragments.filterMap Fragment.glyph? = glyphs ∧ rest.flatMap Slot.blank = tail ∧
      suit (shift places ((glyphs.flatMap Glyph.text).length + 1)) rest := by
  have hstart : places 0 = .inString := by
    rw [hplaces 0 (Nat.zero_le _), placeInString_zero]
  induction glyphs generalizing slots places with
  | nil =>
      obtain ⟨names, rest, rfl, htail, hrest⟩ := exists_holes htext hsuit hstart
      exact ⟨names.map .hole, rest, by rw [flatMap_slots_holes], by simp [Fragment.glyph?], htail,
        hrest⟩
  | cons glyph glyphs ih =>
      obtain ⟨c, more, hglyph⟩ := exists_glyph_text glyph
      have hlength : 1 + more.length = glyph.text.length := by
        rw [hglyph, List.length_cons, Nat.add_comm]
      have hwhole : ((glyph :: glyphs).flatMap Glyph.text).length =
          glyph.text.length + (glyphs.flatMap Glyph.text).length := by
        rw [List.flatMap_cons, List.length_append]
      rw [List.flatMap_cons, hglyph, List.append_assoc, List.cons_append] at htext
      obtain ⟨names, behind, rfl, hbehind, hsuitBehind⟩ := exists_holes htext hsuit hstart
      -- behind its first character a spelling is an escape sequence, where nothing may stand
      obtain ⟨others, rfl, hothers, hsuitOthers⟩ :=
        exists_chars hbehind hsuitBehind fun position hposition => Or.inl (by
          rw [shift, hplaces _ (by omega), placeInString_of_lt (by omega) (by omega)])
      rw [shift_shift, hlength] at hsuitOthers
      have hshift : ∀ position ≤ (glyphs.flatMap Glyph.text).length,
          shift places glyph.text.length position = placeInString glyphs position := by
        intro position hposition
        rw [shift, hplaces _ (by omega), placeInString_length_add]
      obtain ⟨fragments, rest, rfl, hglyphs, htail, hrest⟩ := ih hothers hsuitOthers hshift
        (by rw [hshift 0 (Nat.zero_le _), placeInString_zero])
      refine ⟨names.map .hole ++ .glyph glyph :: fragments, rest, ?_, ?_, htail, ?_⟩
      · simp [flatMap_slots_holes, Fragment.slots, hglyph]
      · simp [Fragment.glyph?, hglyphs]
      · rw [shift_shift] at hrest
        rwa [hwhole, Nat.add_assoc]

theorem exists_atom_part {atom : Atom} {lexemes : List Lexeme} {slots : List Slot}
    (htext : slots.flatMap Slot.blank = atom.text ++ textOf lexemes)
    (hsuit : suit (place (.atom atom :: lexemes)) slots) :
    ∃ (part : Part) (rest : List Slot), slots = part.slots ++ rest ∧ part.lexeme = .atom atom ∧
      rest.flatMap Slot.blank = textOf lexemes ∧ suit (place lexemes) rest := by
  obtain ⟨c, more, hatom, hnone, hnull⟩ := exists_atom_text atom
  have hplace : ∀ position < atom.text.length,
      place (.atom atom :: lexemes) position = .outside := by
    intro position hposition
    exact place_of_lt (show position < (Lexeme.atom atom).text.length from hposition)
  have hbehind : shift (place (.atom atom :: lexemes)) atom.text.length = place lexemes := by
    funext position
    exact place_length_add (.atom atom) lexemes position
  cases slots with
  | nil =>
      rw [hatom] at htext
      cases htext
  | cons slot others =>
      simp only [suit, Bool.and_eq_true] at hsuit
      obtain ⟨hslot, hothers⟩ := hsuit
      cases slot with
      | char d =>
          rw [hatom] at htext
          obtain ⟨rfl, hmore⟩ := List.cons_eq_cons.mp htext
          obtain ⟨rest, rfl, htail, hrest⟩ := exists_chars hmore hothers fun position hposition =>
            Or.inr ⟨hplace _ (by simp [hatom, Slot.blank]; omega), hnone⟩
          have hlength : (Slot.char d).blank.length + more.length = atom.text.length := by
            simp [hatom, Slot.blank, Nat.add_comm]
          rw [shift_shift, hlength, hbehind] at hrest
          exact ⟨.atom atom, rest, by simp [Part.slots, hatom], rfl, htail, hrest⟩
      | quoted name =>
          simp [Slot.suits, place_zero] at hslot
      | bare name =>
          rw [hatom] at htext
          obtain ⟨hn, -⟩ := List.cons_eq_cons.mp htext
          obtain rfl := hnull hn.symm
          rw [← hatom] at htext
          have htail : others.flatMap Slot.blank = textOf lexemes := List.append_cancel_left htext
          exact ⟨.hole name, others, rfl, rfl, htail, hbehind ▸ hothers⟩

theorem exists_string_part {glyphs : List Glyph} {lexemes : List Lexeme} {slots : List Slot}
    (htext : slots.flatMap Slot.blank = (Lexeme.string glyphs).text ++ textOf lexemes)
    (hsuit : suit (place (.string glyphs :: lexemes)) slots) :
    ∃ (part : Part) (rest : List Slot), slots = part.slots ++ rest ∧
      part.lexeme = .string glyphs ∧ rest.flatMap Slot.blank = textOf lexemes ∧
      suit (place lexemes) rest := by
  have hlength : (Lexeme.string glyphs).text.length = (glyphs.flatMap Glyph.text).length + 2 := by
    rw [Lexeme.text, List.cons_append, List.length_cons, List.length_append]
    rfl
  cases slots with
  | nil => cases htext
  | cons slot others =>
      simp only [suit, Bool.and_eq_true] at hsuit
      obtain ⟨hslot, hothers⟩ := hsuit
      cases slot with
      | char d =>
          simp only [List.flatMap_cons, Slot.blank, Lexeme.text, List.cons_append, List.nil_append,
            List.append_assoc, List.cons.injEq] at htext
          obtain ⟨rfl, hliteral⟩ := htext
          obtain ⟨fragments, rest, rfl, hglyphs, htail, hrest⟩ :=
            exists_fragments hliteral hothers fun position hposition => by
              rw [shift, Slot.blank, List.length_singleton, place_of_lt (by omega), Nat.add_comm,
                Lexeme.place]
          have hbehind : shift (shift (place (.string glyphs :: lexemes)) 1)
              ((glyphs.flatMap Glyph.text).length + 1) = place lexemes := by
            funext position
            rw [shift_shift, shift, ← place_length_add (.string glyphs) lexemes, hlength]
            congr 1
            omega
          refine ⟨.string fragments, rest, ?_, by rw [Part.lexeme, hglyphs], htail, ?_⟩
          · simp [Part.slots]
          · exact hbehind ▸ hrest
      | quoted name =>
          simp [Slot.suits, place_zero] at hslot
      | bare name =>
          obtain ⟨hn, -⟩ := List.cons_eq_cons.mp htext
          exact absurd hn (by decide)

/-- Slots that suit their places in a document are made of parts that leave its lexemes. -/
theorem exists_parts {slots : List Slot} {document : List Lexeme}
    (htext : slots.flatMap Slot.blank = textOf document) (hsuit : suit (place document) slots) :
    ∃ parts : List Part, parts.flatMap Part.slots = slots ∧
      parts.map Part.lexeme = document := by
  induction document generalizing slots with
  | nil =>
      cases slots with
      | nil => exact ⟨[], rfl, rfl⟩
      | cons slot others =>
          simp only [suit, Bool.and_eq_true] at hsuit
          cases slot with
          | char c => cases htext
          | quoted name => simp [Slot.suits, place] at hsuit
          | bare name => cases htext
  | cons lexeme lexemes ih =>
      have hfirst : ∃ (part : Part) (rest : List Slot), slots = part.slots ++ rest ∧
          part.lexeme = lexeme ∧ rest.flatMap Slot.blank = textOf lexemes ∧
          suit (place lexemes) rest := by
        cases lexeme with
        | atom atom => exact exists_atom_part htext hsuit
        | string glyphs => exact exists_string_part htext hsuit
      obtain ⟨part, rest, rfl, rfl, htail, hrest⟩ := hfirst
      obtain ⟨parts, rfl, rfl⟩ := ih htail hrest
      exact ⟨part :: parts, rfl, rfl⟩

end Body

end Toolbench
