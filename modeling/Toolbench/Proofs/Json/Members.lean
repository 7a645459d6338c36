import Toolbench.Json.Basic

/-!
# Objects as ordered maps

Setting a member changes what is found under its key only, and keeps the keys in strictly
ascending order. Of ordered members, those found under a key are those listed.
-/

namespace Toolbench

namespace Json

namespace Members

/-- Keys in strictly ascending order. -/
def Ordered (members : Members) : Prop :=
  members.Pairwise fun earlier later => earlier.1 < later.1

/-- Keys that occur once each. -/
def Distinct (members : Members) : Prop :=
  members.Pairwise fun earlier later => earlier.1 ≠ later.1

theorem Ordered.distinct {members : Members} (hordered : Ordered members) :
    Distinct members := by
  refine List.Pairwise.imp ?_ hordered
  intro earlier later hlt heq
  rw [heq] at hlt
  exact String.lt_irrefl _ hlt

theorem find?_insert (key other : String) (value : Json) (members : Members) :
    find? other (insert key value members) =
      if key = other then some value else find? other members := by
  induction members with
  | nil =>
      simp [insert, find?]
  | cons entry rest ih =>
      obtain ⟨k, v⟩ := entry
      by_cases hkey : k = key
      · subst hkey
        by_cases hother : k = other
        · simp [insert, find?, hother]
        · simp [insert, find?, hother]
      · by_cases hlt : key < k
        · simp [insert, find?, hkey, hlt]
        · by_cases hother : k = other
          · subst hother
            have hne : key ≠ k := fun h => hkey h.symm
            simp [insert, find?, hkey, hlt, hne]
          · simp [insert, find?, hkey, hlt, hother, ih]

theorem find?_append (key : String) (earlier later : Members) :
    find? key (earlier ++ later) = (find? key earlier).or (find? key later) := by
  induction earlier with
  | nil =>
      simp [find?]
  | cons entry rest ih =>
      obtain ⟨k, v⟩ := entry
      by_cases hkey : k = key
      · simp [find?, hkey]
      · simp [find?, hkey, ih]

theorem find?_foldl_insert (key : String) (pairs members : Members) :
    find? key (pairs.foldl (fun members pair => insert pair.1 pair.2 members) members) =
      (find? key pairs.reverse).or (find? key members) := by
  induction pairs generalizing members with
  | nil =>
      simp [find?]
  | cons pair rest ih =>
      rw [List.foldl_cons, ih, List.reverse_cons, find?_append, find?_insert]
      by_cases hkey : pair.1 = key
      · simp [find?, hkey]
      · simp [find?, hkey]

theorem find?_ofList (key : String) (pairs : Members) :
    find? key (ofList pairs) = find? key pairs.reverse := by
  rw [ofList, find?_foldl_insert]
  simp [find?]

theorem mem_of_find? {key : String} {value : Json} {members : Members}
    (hfound : find? key members = some value) :
    (key, value) ∈ members := by
  induction members with
  | nil =>
      simp [find?] at hfound
  | cons entry rest ih =>
      obtain ⟨k, v⟩ := entry
      by_cases hkey : k = key
      · simp only [find?, hkey, if_true, Option.some.injEq] at hfound
        simp [hkey, hfound]
      · simp only [find?, hkey, if_false] at hfound
        exact List.mem_cons_of_mem _ (ih hfound)

theorem mem_iff_find? {members : Members} (hdistinct : Distinct members)
    (key : String) (value : Json) :
    (key, value) ∈ members ↔ find? key members = some value := by
  refine ⟨fun hmem => ?_, mem_of_find?⟩
  induction members with
  | nil =>
      simp at hmem
  | cons entry rest ih =>
      obtain ⟨k, v⟩ := entry
      have hhead := List.pairwise_cons.mp hdistinct
      rcases List.mem_cons.mp hmem with hentry | hrest
      · obtain ⟨rfl, rfl⟩ := Prod.mk.inj hentry
        simp [find?]
      · have hne : k ≠ key := hhead.1 (key, value) hrest
        simp only [find?, hne, if_false]
        exact ih hhead.2 hrest

theorem mem_insert {key : String} {value : Json} {members : Members} {entry : String × Json}
    (hmem : entry ∈ insert key value members) :
    entry = (key, value) ∨ entry ∈ members := by
  induction members with
  | nil =>
      simpa [insert] using hmem
  | cons first rest ih =>
      obtain ⟨k, v⟩ := first
      by_cases hkey : k = key
      · rcases List.mem_cons.mp (by simpa [insert, hkey] using hmem) with hnew | hrest
        · exact Or.inl hnew
        · exact Or.inr (List.mem_cons_of_mem _ hrest)
      · by_cases hlt : key < k
        · simpa [insert, hkey, hlt] using hmem
        · rcases List.mem_cons.mp (by simpa [insert, hkey, hlt] using hmem) with hfirst | hrest
          · exact Or.inr (by simp [hfirst])
          · rcases ih hrest with hnew | hold
            · exact Or.inl hnew
            · exact Or.inr (List.mem_cons_of_mem _ hold)

theorem Ordered.insert {members : Members} (hordered : Ordered members)
    (key : String) (value : Json) :
    Ordered (members.insert key value) := by
  induction members with
  | nil =>
      simp [Members.insert, Ordered]
  | cons entry rest ih =>
      obtain ⟨k, v⟩ := entry
      obtain ⟨hfirst, hrest⟩ := List.pairwise_cons.mp hordered
      by_cases hkey : k = key
      · subst hkey
        simp only [Members.insert, if_true]
        exact List.pairwise_cons.mpr ⟨hfirst, hrest⟩
      · by_cases hlt : key < k
        · simp only [Members.insert, hkey, hlt, if_true, if_false]
          refine List.pairwise_cons.mpr ⟨?_, hordered⟩
          intro later hlater
          rcases List.mem_cons.mp hlater with rfl | hlater
          · exact hlt
          · exact String.lt_trans hlt (hfirst later hlater)
        · simp only [Members.insert, hkey, hlt, if_false]
          refine List.pairwise_cons.mpr ⟨?_, ih hrest⟩
          intro later hlater
          rcases mem_insert hlater with rfl | hold
          · -- the new key is neither the first one nor below it
            exact String.not_le.mp fun hle => hkey (String.le_antisymm (String.not_lt.mp hlt) hle)
          · exact hfirst later hold

theorem ordered_ofList (pairs : Members) : Ordered (ofList pairs) := by
  suffices hfold : ∀ members : Members, Ordered members →
      Ordered (pairs.foldl (fun members pair => insert pair.1 pair.2 members) members) from
    hfold [] List.Pairwise.nil
  induction pairs with
  | nil =>
      exact fun members hmembers => hmembers
  | cons pair rest ih =>
      exact fun members hmembers => ih _ (hmembers.insert pair.1 pair.2)

/-- An object made of pairs with different keys holds these pairs. -/
theorem mem_ofList {pairs : Members} (hdistinct : Distinct pairs) (entry : String × Json) :
    entry ∈ ofList pairs ↔ entry ∈ pairs := by
  have hreverse : Distinct pairs.reverse := by
    refine List.pairwise_reverse.mpr (List.Pairwise.imp ?_ hdistinct)
    exact fun hne heq => hne heq.symm
  rw [mem_iff_find? (ordered_ofList pairs).distinct, find?_ofList, ← mem_iff_find? hreverse,
    List.mem_reverse]

theorem Ordered.nodup {members : Members} (hordered : Ordered members) : members.Nodup := by
  refine List.Pairwise.imp ?_ hordered
  intro earlier later hlt heq
  rw [heq] at hlt
  exact String.lt_irrefl _ hlt

/-- Ordered members are determined by what they hold. -/
theorem Ordered.ext {left right : Members} (hleft : Ordered left) (hright : Ordered right)
    (hsame : ∀ key value, (key, value) ∈ left ↔ (key, value) ∈ right) :
    left = right := by
  have hperm : left.Perm right :=
    (List.perm_ext_iff_of_nodup hleft.nodup hright.nodup).mpr fun entry => hsame entry.1 entry.2
  refine List.Perm.eq_of_pairwise ?_ hleft hright hperm
  intro earlier later _ _ hlt hgt
  exact absurd (String.lt_trans hlt hgt) (String.lt_irrefl _)

end Members

end Json

end Toolbench
