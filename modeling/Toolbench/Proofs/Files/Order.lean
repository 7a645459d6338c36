import Toolbench.Files.Path

/-!
# The order of places

Names are ordered by their bytes and places by their names, part by part.  Both orders are
linear, so files have one order, however they are listed.
-/

namespace Toolbench

namespace Files

namespace Name

theorem before_total (a b : Name) : before a b = true ∨ before b a = true := by
  induction a generalizing b with
  | nil => exact .inl (by simp [before])
  | cons x a ih =>
      cases b with
      | nil => exact .inr (by simp [before])
      | cons y b =>
          simp only [before, Bool.or_eq_true, Bool.and_eq_true, decide_eq_true_eq, beq_iff_eq]
          rcases Nat.lt_trichotomy x.toNat y.toNat with hlt | heq | hgt
          · exact .inl (.inl hlt)
          · have hsame := UInt8.toNat_inj.mp heq
            rcases ih b with hab | hba
            · exact .inl (.inr ⟨hsame, hab⟩)
            · exact .inr (.inr ⟨hsame.symm, hba⟩)
          · exact .inr (.inl hgt)

theorem before_antisymm {a b : Name} (hab : before a b = true) (hba : before b a = true) :
    a = b := by
  induction a generalizing b with
  | nil =>
      cases b with
      | nil => rfl
      | cons y b => cases hba
  | cons x a ih =>
      cases b with
      | nil => cases hab
      | cons y b =>
          simp only [before, Bool.or_eq_true, Bool.and_eq_true, decide_eq_true_eq, beq_iff_eq,
            UInt8.lt_iff_toNat_lt] at hab hba
          rcases hab with hlt | ⟨rfl, hab⟩
          · rcases hba with hgt | ⟨rfl, -⟩ <;> omega
          · rcases hba with hgt | ⟨-, hba⟩
            · omega
            · rw [ih hab hba]

theorem before_trans {a b c : Name} (hab : before a b = true) (hbc : before b c = true) :
    before a c = true := by
  induction a generalizing b c with
  | nil => simp [before]
  | cons x a ih =>
      cases b with
      | nil => cases hab
      | cons y b =>
          cases c with
          | nil => cases hbc
          | cons z c =>
              simp only [before, Bool.or_eq_true, Bool.and_eq_true, decide_eq_true_eq,
                beq_iff_eq, UInt8.lt_iff_toNat_lt] at hab hbc ⊢
              rcases hab with hlt | ⟨rfl, hab⟩
              · rcases hbc with hgt | ⟨rfl, -⟩
                · exact .inl (by omega)
                · exact .inl hlt
              · rcases hbc with hgt | ⟨rfl, hbc⟩
                · exact .inl hgt
                · exact .inr ⟨rfl, ih hab hbc⟩

end Name

namespace Place

theorem before_total (a b : Place) : before a b = true ∨ before b a = true := by
  induction a generalizing b with
  | nil => exact .inl (by simp [before])
  | cons x a ih =>
      cases b with
      | nil => exact .inr (by simp [before])
      | cons y b =>
          by_cases hname : x = y
          · subst hname
            simpa [before] using ih b
          · have hother : ¬ y = x := fun heq => hname heq.symm
            simpa [before, hname, hother] using Name.before_total x y

theorem before_antisymm {a b : Place} (hab : before a b = true) (hba : before b a = true) :
    a = b := by
  induction a generalizing b with
  | nil =>
      cases b with
      | nil => rfl
      | cons y b => cases hba
  | cons x a ih =>
      cases b with
      | nil => cases hab
      | cons y b =>
          by_cases hname : x = y
          · subst hname
            simp only [before, if_true] at hab hba
            rw [ih hab hba]
          · have hother : ¬ y = x := fun heq => hname heq.symm
            simp only [before, hname, hother, if_false] at hab hba
            exact absurd (Name.before_antisymm hab hba) hname

theorem before_trans {a b c : Place} (hab : before a b = true) (hbc : before b c = true) :
    before a c = true := by
  induction a generalizing b c with
  | nil => simp [before]
  | cons x a ih =>
      cases b with
      | nil => cases hab
      | cons y b =>
          cases c with
          | nil => cases hbc
          | cons z c =>
              by_cases hxy : x = y
              · subst hxy
                by_cases hxz : x = z
                · subst hxz
                  simp only [before, if_true] at hab hbc ⊢
                  exact ih hab hbc
                · simp only [before, hxz, if_false] at hbc ⊢
                  exact hbc
              · by_cases hyz : y = z
                · subst hyz
                  simp only [before, hxy, if_false] at hab ⊢
                  exact hab
                · simp only [before, hxy, hyz, if_false] at hab hbc
                  have hnames := Name.before_trans hab hbc
                  by_cases hxz : x = z
                  · subst hxz
                    exact absurd (Name.before_antisymm hab hbc) hxy
                  · simpa [before, hxz] using hnames

end Place

end Files

end Toolbench
