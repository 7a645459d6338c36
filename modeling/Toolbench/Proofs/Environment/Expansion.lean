import Toolbench.Environment.Basic

/-!
# Expanding references

The pieces of a text spell it, so a text stays as it is if no variable is set that it refers to.
What it is expanded to depends on the variables that it refers to and on no others.
-/

namespace Toolbench

namespace Environment

/-- A piece as the text spells it. -/
def spelling : Piece → List Char
  | .char c => [c]
  | .reference name => '$' :: '{' :: name ++ ['}']

theorem dropWhile_ne_head {mark c : Char} {text behind : List Char}
    (hdrop : text.dropWhile (· != mark) = c :: behind) : c = mark := by
  have hhead := List.head?_dropWhile_not (· != mark) text
  rw [hdrop] at hhead
  simpa using hhead

theorem flatMap_spelling_pieces (text : List Char) :
    (pieces text).flatMap spelling = text := by
  induction text using pieces.induct with
  | case1 =>
      simp [pieces]
  | case2 rest c behind hdrop hclosed ih =>
      rw [pieces.eq_2]
      split
      · simp [hclosed, spelling, ih]
      · simp [spelling, ih]
  | case3 rest c behind hdrop hopen ih =>
      obtain rfl := dropWhile_ne_head hdrop
      have hrest : rest.takeWhile (· != '}') ++ '}' :: behind = rest := by
        rw [← hdrop, List.takeWhile_append_dropWhile]
      rw [pieces.eq_2]
      split
      · rename_i c' behind' hdrop'
        obtain ⟨-, rfl⟩ := List.cons.inj (hdrop.symm.trans hdrop')
        simp [hopen, spelling, ih, hrest]
      · rename_i hnil
        rw [hnil] at hdrop
        cases hdrop
  | case4 rest hdrop ih =>
      rw [pieces.eq_2]
      split
      · rename_i c behind hcons
        rw [hcons] at hdrop
        cases hdrop
      · simp [spelling, ih]
  | case5 c rest hplain ih =>
      rw [pieces.eq_3 c rest hplain]
      simp [spelling, ih]

theorem pieces_char_cons {c : Char} {rest : List Char}
    (hplain : c = '$' → rest.head? ≠ some '{') :
    pieces (c :: rest) = .char c :: pieces rest := by
  refine pieces.eq_3 c rest fun behind hdollar hrest => hplain hdollar ?_
  rw [hrest, List.head?_cons]

theorem pieces_chars_append {text : List Char} (hplain : '$' ∉ text) (rest : List Char) :
    pieces (text ++ rest) = text.map .char ++ pieces rest := by
  induction text with
  | nil =>
      rfl
  | cons c text ih =>
      rw [List.mem_cons, not_or] at hplain
      rw [List.cons_append, pieces_char_cons fun hdollar => absurd hdollar.symm hplain.1,
        ih hplain.2, List.map_cons, List.cons_append]

theorem pieces_reference_append {name : List Char} (hsome : name ≠ []) (hopen : '}' ∉ name)
    (rest : List Char) :
    pieces ('$' :: '{' :: (name ++ '}' :: rest)) = .reference name :: pieces rest := by
  have hname : ∀ c ∈ name, (c != '}') = true := by
    intro c hc
    simpa using fun h : c = '}' => hopen (h ▸ hc)
  have hdrop : (name ++ '}' :: rest).dropWhile (· != '}') = '}' :: rest := by
    rw [List.dropWhile_append_of_pos hname]
    simp
  have htake : (name ++ '}' :: rest).takeWhile (· != '}') = name := by
    rw [List.takeWhile_append_of_pos hname]
    simp
  have hhead : (name ++ '}' :: rest).head? ≠ some '}' := by
    obtain ⟨c, others, rfl⟩ := List.exists_cons_of_ne_nil hsome
    simpa using hname c List.mem_cons_self
  rw [pieces.eq_2]
  split
  · rename_i c behind hbehind
    obtain ⟨-, rfl⟩ := List.cons.inj (hdrop.symm.trans hbehind)
    rw [if_neg hhead, htake]
  · rename_i hnil
    rw [hdrop] at hnil
    cases hnil

/-- Whether a text refers to no variable. -/
def isPlain (text : String) : Bool :=
  (pieces text.toList).all fun piece =>
    match piece with
    | .char _ => true
    | .reference _ => false

theorem expand_eq_self (environment : Environment) {text : String} (hplain : isPlain text) :
    environment.expand text = text := by
  have hpieces : (pieces text.toList).map (expandPiece environment) =
      (pieces text.toList).map spelling := by
    refine List.map_congr_left fun piece hpiece => ?_
    have hchar := List.all_eq_true.mp hplain piece hpiece
    cases piece with
    | char c => rfl
    | reference name => cases hchar
  rw [expand, List.flatMap_def, hpieces, ← List.flatMap_def, flatMap_spelling_pieces,
    String.ofList_toList]

def reference? : Piece → Option String
  | .char _ => none
  | .reference name => some (String.ofList name)

/-- The names of the variables that a text refers to, in order of appearance. -/
def references (text : String) : List String :=
  (pieces text.toList).filterMap reference?

theorem expand_congr {left right : Environment} {text : String}
    (hsame : ∀ name ∈ references text, left.get? name = right.get? name) :
    left.expand text = right.expand text := by
  have hpieces : (pieces text.toList).map (expandPiece left) =
      (pieces text.toList).map (expandPiece right) := by
    refine List.map_congr_left fun piece hpiece => ?_
    cases piece with
    | char c => rfl
    | reference name =>
        have hname : String.ofList name ∈ references text :=
          List.mem_filterMap.mpr ⟨.reference name, hpiece, rfl⟩
        rw [expandPiece, expandPiece, hsame _ hname]
  rw [expand, expand, List.flatMap_def, List.flatMap_def, hpieces]

theorem get?_nil (name : String) : get? [] name = none := by
  unfold get?
  split <;> rfl

theorem expandPiece_nil (piece : Piece) : expandPiece [] piece = spelling piece := by
  cases piece with
  | char c => rfl
  | reference name => rw [expandPiece, get?_nil, spelling]

theorem expand_nil (text : String) : expand [] text = text := by
  rw [expand, funext expandPiece_nil, flatMap_spelling_pieces, String.ofList_toList]

end Environment

end Toolbench
