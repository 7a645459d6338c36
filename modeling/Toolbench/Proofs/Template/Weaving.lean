import Toolbench.Template.Basic

/-!
# Weaving images into a template

The pieces of a template spell it, its placeholders have identifiers for names, and filling
a template weaves into it what the encoder makes of each placeholder.
-/

namespace Toolbench

namespace Template

theorem closeName?_eq_some_iff (text name behind : List Char) :
    closeName? text = some (name, behind) ↔
      Name.isIdentifier name ∧ text = name ++ '}' :: behind := by
  constructor
  · intro hclose
    cases text with
    | nil => simp [closeName?] at hclose
    | cons c rest =>
        simp only [closeName?] at hclose
        split at hclose
        · rename_i hstart
          split at hclose
          · rename_i behind' hdrop
            obtain ⟨rfl, rfl⟩ := Prod.mk.inj (Option.some.inj hclose)
            have hrest : rest.takeWhile Name.isPart ++ '}' :: behind' = rest := by
              rw [← hdrop, List.takeWhile_append_dropWhile]
            refine ⟨?_, by rw [List.cons_append, hrest]⟩
            simp only [Name.isIdentifier, hstart, List.all_takeWhile, Bool.and_self]
          · cases hclose
        · cases hclose
  · rintro ⟨hname, rfl⟩
    cases name with
    | nil => cases hname
    | cons c name =>
        simp only [Name.isIdentifier, Bool.and_eq_true] at hname
        have hparts : ∀ c ∈ name, Name.isPart c := List.all_eq_true.mp hname.2
        have hbrace : Name.isPart '}' = false := by
          decide
        simp only [List.cons_append, closeName?, hname.1, if_true,
          List.dropWhile_append_of_pos hparts, List.takeWhile_append_of_pos hparts,
          List.dropWhile_cons, List.takeWhile_cons, hbrace, Bool.false_eq_true, if_false,
          List.append_nil]

theorem isPart_of_isIdentifier {name : List Char} (hname : Name.isIdentifier name) :
    ∀ c ∈ name, Name.isPart c = true := by
  cases name with
  | nil => cases hname
  | cons first rest =>
      simp only [Name.isIdentifier, Bool.and_eq_true, List.all_eq_true] at hname
      intro c hc
      rcases List.mem_cons.mp hc with rfl | hrest
      · have hstart := hname.1
        simp only [Name.isStart, Bool.or_eq_true] at hstart
        simp only [Name.isPart, Char.isAlphanum, Bool.or_eq_true]
        rcases hstart with halpha | hline
        · exact Or.inl (Or.inl halpha)
        · exact Or.inr hline
      · exact hname.2 c hrest

theorem eq_or_isPart_of_mem_spelling {name : List Char} (hname : Name.isIdentifier name) {c : Char}
    (hc : c ∈ spelling (.placeholder name)) : c = '{' ∨ c = '}' ∨ Name.isPart c := by
  simp only [spelling, List.mem_append, List.mem_cons, List.mem_nil_iff, or_false] at hc
  rcases hc with (hopen | hpart) | hclose
  · exact Or.inl hopen
  · exact Or.inr (Or.inr (isPart_of_isIdentifier hname c hpart))
  · exact Or.inr (Or.inl hclose)

/-- The text of pieces with an image of its name for each placeholder. -/
def weave (image : List Char → List Char) : List Piece → List Char
  | [] => []
  | .char c :: rest => c :: weave image rest
  | .placeholder name :: rest => image name ++ weave image rest

theorem weave_chars_append (image : List Char → List Char) (text : List Char)
    (pieces : List Piece) :
    weave image (text.map .char ++ pieces) = text ++ weave image pieces := by
  induction text with
  | nil =>
      rfl
  | cons c rest ih =>
      simp [weave, ih]

theorem weave_congr {left right : List Char → List Char} {pieces : List Piece}
    (hsame : ∀ name, .placeholder name ∈ pieces → left name = right name) :
    weave left pieces = weave right pieces := by
  induction pieces with
  | nil =>
      rfl
  | cons piece rest ih =>
      have hrest := ih fun name hname => hsame name (List.mem_cons_of_mem _ hname)
      cases piece with
      | char c => rw [weave, weave, hrest]
      | placeholder name => rw [weave, weave, hrest, hsame name List.mem_cons_self]

/-- Pieces without placeholders do not depend on images. -/
theorem weave_congr_of_no_placeholder (left right : List Char → List Char) {pieces : List Piece}
    (hnone : ∀ name, .placeholder name ∉ pieces) :
    weave left pieces = weave right pieces :=
  weave_congr fun name hname => absurd hname (hnone name)

/-- The pieces of a text spell it. -/
theorem weave_spelling_piecesFrom (afterDollar : Bool) (text : List Char) :
    weave (fun name => spelling (.placeholder name)) (piecesFrom afterDollar text) = text := by
  induction afterDollar, text using piecesFrom.induct with
  | case1 afterDollar =>
      simp [piecesFrom, weave]
  | case2 afterDollar c rest hopens name behind hclose ih =>
      obtain ⟨-, rfl⟩ := (closeName?_eq_some_iff _ _ _).mp hclose
      rw [piecesFrom, if_pos hopens]
      split
      · rename_i name' behind' hclose'
        rw [hclose] at hclose'
        obtain ⟨rfl, rfl⟩ := Prod.mk.inj (Option.some.inj hclose')
        rw [weave, ih, hopens.1]
        simp [spelling]
      · rename_i hnone
        rw [hclose] at hnone
        cases hnone
  | case3 afterDollar c rest hopens hclose ih =>
      rw [piecesFrom, if_pos hopens]
      split
      · rename_i name behind hclose'
        rw [hclose] at hclose'
        cases hclose'
      · rw [weave, ih]
  | case4 afterDollar c rest hopens ih =>
      rw [piecesFrom, if_neg hopens, weave, ih]

theorem piecesFrom_spelling_append {name : List Char} (hname : Name.isIdentifier name)
    (rest : List Char) :
    piecesFrom false (spelling (.placeholder name) ++ rest) =
      .placeholder name :: piecesFrom false rest := by
  have hclose : closeName? (name ++ '}' :: rest) = some (name, rest) :=
    (closeName?_eq_some_iff _ _ _).mpr ⟨hname, rfl⟩
  have htext : spelling (.placeholder name) ++ rest = '{' :: (name ++ '}' :: rest) := by
    simp [spelling]
  rw [htext, piecesFrom, if_pos ⟨rfl, rfl⟩]
  split
  · rename_i found behind hfound
    obtain ⟨rfl, rfl⟩ := Prod.mk.inj (Option.some.inj (hclose.symm.trans hfound))
    rfl
  · rename_i hnone
    rw [hclose] at hnone
    cases hnone

theorem isIdentifier_of_mem_piecesFrom (afterDollar : Bool) (text : List Char) {name : List Char}
    (hmem : .placeholder name ∈ piecesFrom afterDollar text) :
    Name.isIdentifier name := by
  induction afterDollar, text using piecesFrom.induct with
  | case1 afterDollar =>
      simp [piecesFrom] at hmem
  | case2 afterDollar c rest hopens name' behind hclose ih =>
      rw [piecesFrom, if_pos hopens] at hmem
      split at hmem
      · rename_i other behind' hclose'
        rw [hclose] at hclose'
        obtain ⟨rfl, rfl⟩ := Prod.mk.inj (Option.some.inj hclose')
        rcases List.mem_cons.mp hmem with hname | hrest
        · obtain rfl := Piece.placeholder.inj hname
          exact ((closeName?_eq_some_iff _ _ _).mp hclose).1
        · exact ih hrest
      · rename_i hnone
        rw [hclose] at hnone
        cases hnone
  | case3 afterDollar c rest hopens hclose ih =>
      rw [piecesFrom, if_pos hopens] at hmem
      split at hmem
      · rename_i name' behind hclose'
        rw [hclose] at hclose'
        cases hclose'
      · exact ih (by simpa using hmem)
  | case4 afterDollar c rest hopens ih =>
      rw [piecesFrom, if_neg hopens] at hmem
      exact ih (by simpa using hmem)

section Filling

variable {ε : Type} {encode : List Char → Option Json → Except ε (List Char)}
  {arguments : Arguments} {seen text : List Char} {rest : List Piece}

theorem fillPieces_char_eq_ok {c : Char}
    (hfill : fillPieces encode arguments seen (.char c :: rest) = .ok text) :
    ∃ filled, fillPieces encode arguments (c :: seen) rest = .ok filled ∧ text = c :: filled := by
  cases hrest : fillPieces encode arguments (c :: seen) rest with
  | error fault =>
      simp [fillPieces, hrest, bind, Except.bind] at hfill
  | ok filled =>
      simp only [fillPieces, hrest, bind, Except.bind, pure, Except.pure, Except.ok.injEq] at hfill
      exact ⟨filled, rfl, hfill.symm⟩

theorem fillPieces_placeholder_eq_ok {name : List Char}
    (hfill : fillPieces encode arguments seen (.placeholder name :: rest) = .ok text) :
    ∃ image filled,
      encode seen.reverse (arguments.find? (String.ofList name)) = .ok image ∧
      fillPieces encode arguments ((spelling (.placeholder name)).reverse ++ seen) rest =
        .ok filled ∧
      text = image ++ filled := by
  cases himage : encode seen.reverse (arguments.find? (String.ofList name)) with
  | error fault =>
      simp [fillPieces, himage, bind, Except.bind] at hfill
  | ok image =>
      cases hrest : fillPieces encode arguments
          ((spelling (.placeholder name)).reverse ++ seen) rest with
      | error fault =>
          simp only [fillPieces, himage, hrest, bind, Except.bind] at hfill
          cases hfill
      | ok filled =>
          simp only [fillPieces, himage, hrest, bind, Except.bind, pure, Except.pure,
            Except.ok.injEq] at hfill
          exact ⟨image, filled, rfl, rfl, hfill.symm⟩

end Filling

/-- A template with the letter x for every placeholder. -/
def sampleText (template : String) : List Char :=
  weave (fun _ => ['x']) (pieces template)

/-- The characters before the first placeholder, if there is one. -/
def opening? : List Piece → Option (List Char)
  | [] => none
  | .char c :: rest => (opening? rest).map (c :: ·)
  | .placeholder _ :: _ => some []

theorem not_mem_of_opening?_eq_none {pieces : List Piece} (hnone : opening? pieces = none) :
    ∀ name, .placeholder name ∉ pieces := by
  induction pieces with
  | nil =>
      simp
  | cons piece rest ih =>
      cases piece with
      | placeholder name => cases hnone
      | char c =>
          have hrest := ih (Option.map_eq_none_iff.mp hnone)
          simpa using hrest

theorem exists_of_opening?_eq_some {pieces : List Piece} {before : List Char}
    (hsome : opening? pieces = some before) :
    ∃ after, pieces = before.map .char ++ after := by
  induction pieces generalizing before with
  | nil =>
      cases hsome
  | cons piece rest ih =>
      cases piece with
      | placeholder name =>
          obtain rfl := Option.some.inj hsome
          exact ⟨.placeholder name :: rest, rfl⟩
      | char c =>
          obtain ⟨others, hothers, rfl⟩ := Option.map_eq_some_iff.mp hsome
          obtain ⟨after, rfl⟩ := ih hothers
          exact ⟨after, rfl⟩

end Template

end Toolbench
