import Toolbench.Proofs.Template.Weaving

/-!
# Reading pieces back

Pieces that are spelled out are read back as they are where no placeholder stands behind a dollar
sign and no brace among their characters begins a name that is closed. Pieces are determined by
their spelling and by where in it images go.
-/

namespace Toolbench

namespace Template

theorem weave_append (image : List Char → List Char) (front back : List Piece) :
    weave image (front ++ back) = weave image front ++ weave image back := by
  induction front with
  | nil =>
      rfl
  | cons piece rest ih =>
      cases piece with
      | char c => simp [weave, ih]
      | placeholder name => simp [weave, ih]

/-- Pieces as a template spells them. -/
def spelled (pieces : List Piece) : List Char :=
  weave (fun name => spelling (.placeholder name)) pieces

/-- Whether pieces are read back from their spelling, given whether they stand behind a dollar
sign. -/
def standsFrom (afterDollar : Bool) : List Piece → Bool
  | [] => true
  | .char c :: rest =>
      (c != '{' || afterDollar || (closeName? (spelled rest)).isNone) &&
        standsFrom (c = '$') rest
  | .placeholder _ :: rest => !afterDollar && standsFrom false rest

theorem standsFrom_char_cons (afterDollar : Bool) (c : Char) (rest : List Piece) :
    standsFrom afterDollar (.char c :: rest) ↔
      (c = '{' → afterDollar = false → closeName? (spelled rest) = none) ∧
        standsFrom (c = '$') rest := by
  rw [standsFrom, Bool.and_eq_true]
  by_cases hc : c = '{'
  · cases afterDollar <;> simp [hc]
  · simp [hc]

/-- Behind a dollar sign it is enough that no placeholder comes first. -/
theorem standsFrom_true {pieces : List Piece} (hstands : standsFrom false pieces)
    (hhead : ∀ name, pieces.head? ≠ some (.placeholder name)) : standsFrom true pieces := by
  cases pieces with
  | nil =>
      rfl
  | cons piece rest =>
      cases piece with
      | char c =>
          obtain ⟨-, hrest⟩ := (standsFrom_char_cons false c rest).mp hstands
          refine (standsFrom_char_cons true c rest).mpr ⟨?_, hrest⟩
          intro _ hfalse
          cases hfalse
      | placeholder name => exact absurd rfl (hhead name)

theorem piecesFrom_char_eq_iff (afterDollar : Bool) (c : Char) (text : List Char)
    (pieces : List Piece) :
    piecesFrom afterDollar (c :: text) = .char c :: pieces ↔
      (c != '{' || afterDollar || (closeName? text).isNone) ∧
        piecesFrom (c = '$') text = pieces := by
  rw [piecesFrom]
  by_cases hopens : c = '{' ∧ afterDollar = false
  · obtain ⟨rfl, rfl⟩ := hopens
    rw [if_pos ⟨rfl, rfl⟩]
    split
    · rename_i hclose
      simp [hclose]
    · rename_i hclose
      simp [hclose]
  · have hplain : (c != '{' || afterDollar) = true := by
      rw [not_and, Bool.not_eq_false] at hopens
      by_cases hc : c = '{'
      · simp [hopens hc]
      · simp [hc]
    rw [if_neg hopens, List.cons_inj_right, hplain]
    simp

theorem piecesFrom_spelled_iff {pieces : List Piece} (afterDollar : Bool)
    (hnames : ∀ name, .placeholder name ∈ pieces → Name.isIdentifier name) :
    piecesFrom afterDollar (spelled pieces) = pieces ↔ standsFrom afterDollar pieces := by
  induction pieces generalizing afterDollar with
  | nil =>
      simp [spelled, weave, piecesFrom, standsFrom]
  | cons piece rest ih =>
      have hrest := fun dollar => ih dollar fun name hname =>
        hnames name (List.mem_cons_of_mem _ hname)
      cases piece with
      | char c =>
          rw [standsFrom, Bool.and_eq_true, ← hrest]
          exact piecesFrom_char_eq_iff afterDollar c (spelled rest) rest
      | placeholder name =>
          have hname := hnames name List.mem_cons_self
          have hspelled : spelled (.placeholder name :: rest) =
              spelling (.placeholder name) ++ spelled rest :=
            rfl
          rw [standsFrom, hspelled]
          cases afterDollar with
          | false =>
              rw [piecesFrom_spelling_append hname, List.cons_inj_right, hrest]
              simp
          | true =>
              simp [spelling, piecesFrom]

theorem spelled_placeholder_cons (name : List Char) (rest : List Piece) :
    spelled (.placeholder name :: rest) = '{' :: (name ++ '}' :: spelled rest) := by
  simp [spelled, weave, spelling]

theorem spelled_placeholder_inj {left right : List Char} {leftRest rightRest : List Piece}
    (hleft : Name.isIdentifier left) (hright : Name.isIdentifier right)
    (hspelled : spelled (.placeholder left :: leftRest) =
      spelled (.placeholder right :: rightRest)) :
    left = right ∧ spelled leftRest = spelled rightRest := by
  rw [spelled_placeholder_cons, spelled_placeholder_cons, List.cons_inj_right] at hspelled
  have hclose := (closeName?_eq_some_iff _ left (spelled leftRest)).mpr ⟨hleft, rfl⟩
  rw [hspelled, (closeName?_eq_some_iff _ right _).mpr ⟨hright, rfl⟩] at hclose
  obtain ⟨hname, hrest⟩ := Prod.mk.inj (Option.some.inj hclose)
  exact ⟨hname.symm, hrest.symm⟩

/-- Pieces with the same spelling whose placeholders stand in the same places are the same. -/
theorem eq_of_weave_eq {left right : List Piece}
    (hleft : ∀ name, .placeholder name ∈ left → Name.isIdentifier name)
    (hright : ∀ name, .placeholder name ∈ right → Name.isIdentifier name)
    (hspelled : spelled left = spelled right)
    (hsample : weave (fun _ => ['x']) left = weave (fun _ => ['x']) right) :
    left = right := by
  induction left generalizing right with
  | nil =>
      cases right with
      | nil => rfl
      | cons other others => cases other <;> cases hsample
  | cons piece rest ih =>
      cases right with
      | nil => cases piece <;> cases hsample
      | cons other others =>
          have hrest := ih (fun name hname => hleft name (List.mem_cons_of_mem _ hname))
            (fun name hname => hright name (List.mem_cons_of_mem _ hname))
          cases piece with
          | char c =>
              cases other with
              | char d =>
                  obtain ⟨rfl, hspelledRest⟩ := List.cons.inj hspelled
                  obtain ⟨-, hsampleRest⟩ := List.cons.inj hsample
                  rw [hrest hspelledRest hsampleRest]
              | placeholder name =>
                  -- the character would be the brace of the name and the sample for it
                  obtain ⟨rfl, -⟩ := List.cons.inj hspelled
                  cases hsample
          | placeholder name =>
              cases other with
              | char d =>
                  obtain ⟨rfl, -⟩ := List.cons.inj hspelled
                  cases hsample
              | placeholder other =>
                  obtain ⟨rfl, hspelledRest⟩ := spelled_placeholder_inj
                    (hleft name List.mem_cons_self) (hright other List.mem_cons_self) hspelled
                  obtain ⟨-, hsampleRest⟩ := List.cons.inj hsample
                  rw [hrest hspelledRest hsampleRest]

end Template

end Toolbench
