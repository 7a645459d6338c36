import Mathlib.Data.List.Nodup
import Toolbench.Files.Tree

/-!
# Trees in another order

A tree lists each place once.  What is at a place, and which files are below a directory, does
not depend on the order of the list.
-/

namespace Toolbench

namespace Files

namespace Tree

open Text (Bytes)

theorem lookup_eq_some_iff {entries : List (Place × Item)}
    (hdistinct : (entries.map (·.1)).Nodup) (place : Place) (item : Item) :
    entries.lookup place = some item ↔ (place, item) ∈ entries := by
  induction entries with
  | nil =>
      simp
  | cons entry rest ih =>
      obtain ⟨location, held⟩ := entry
      rw [List.map_cons] at hdistinct
      obtain ⟨hlocation, hrest⟩ := List.nodup_cons.mp hdistinct
      by_cases hplace : place = location
      · subst hplace
        rw [List.lookup_cons_self, List.mem_cons, Prod.mk.injEq, Option.some.injEq]
        constructor
        · rintro rfl
          exact .inl ⟨rfl, rfl⟩
        · rintro (⟨-, rfl⟩ | hmem)
          · rfl
          · exact absurd (List.mem_map_of_mem hmem) hlocation
      · have hbeq : (place == location) = false := by
          simpa using hplace
        simp [List.lookup_cons, hbeq, hplace, ih hrest]

theorem at?_eq_file_iff (tree : Tree) (place : Place) (content : Bytes) :
    tree.at? place = some (.file content) ↔ (place, .file content) ∈ tree.entries := by
  rw [← lookup_eq_some_iff tree.distinct, at?]
  cases tree.entries.lookup place with
  | some item => rfl
  | none =>
      simp only [reduceCtorEq, iff_false]
      split <;> simp

/-- The files below a directory are those at the places that its own place leads to. -/
theorem mem_filesBelow_iff (tree : Tree) (place names : Place) (content : Bytes) :
    (names, content) ∈ tree.filesBelow place ↔
      tree.at? (place ++ names) = some (.file content) := by
  rw [at?_eq_file_iff, filesBelow, List.mem_filterMap]
  constructor
  · rintro ⟨⟨location, item⟩, hmem, hentry⟩
    cases item with
    | directory => cases hentry
    | file held =>
        simp only [Option.ite_none_right_eq_some, Option.some.injEq, Prod.mk.injEq] at hentry
        obtain ⟨hbelow, rfl, rfl⟩ := hentry
        rw [List.prefix_iff_eq_append.mp (List.isPrefixOf_iff_prefix.mp hbelow)]
        exact hmem
  · intro hmem
    have hbelow : place.isPrefixOf (place ++ names) = true :=
      List.isPrefixOf_iff_prefix.mpr (List.prefix_append place names)
    exact ⟨_, hmem, by simp [hbelow]⟩

theorem filesBelow_distinct (tree : Tree) (place : Place) :
    ((tree.filesBelow place).map (·.1)).Nodup := by
  have hentries : tree.entries.Pairwise fun earlier later => earlier.1 ≠ later.1 :=
    List.pairwise_map.mp tree.distinct
  rw [List.nodup_iff_pairwise_ne, List.pairwise_map]
  refine List.Pairwise.filterMap _ ?_ hentries
  rintro ⟨location, item⟩ ⟨other, held⟩ hne ⟨names, content⟩ hentry ⟨others, rest⟩ hother heq
  cases item with
  | directory => cases hentry
  | file _ =>
      cases held with
      | directory => cases hother
      | file _ =>
          simp only [Option.ite_none_right_eq_some, Option.some.injEq, Prod.mk.injEq]
            at hentry hother
          obtain ⟨hbelow, rfl, -⟩ := hentry
          obtain ⟨hbeside, rfl, -⟩ := hother
          have hlocation := List.prefix_iff_eq_append.mp (List.isPrefixOf_iff_prefix.mp hbelow)
          have hplace := List.prefix_iff_eq_append.mp (List.isPrefixOf_iff_prefix.mp hbeside)
          simp only at heq
          exact hne (by rw [← hlocation, ← hplace, heq])

variable {tree other : Tree}

theorem at?_of_perm (hstart : other.start = tree.start)
    (hperm : other.entries.Perm tree.entries) : other.at? = tree.at? := by
  funext place
  have hlookup : other.entries.lookup place = tree.entries.lookup place := by
    refine Option.ext fun item => ?_
    rw [lookup_eq_some_iff other.distinct, lookup_eq_some_iff tree.distinct, hperm.mem_iff]
  unfold at?
  rw [hlookup, hperm.any_eq, hstart]

theorem directory?_of_perm (hstart : other.start = tree.start)
    (hperm : other.entries.Perm tree.entries) (path : Bytes) :
    other.directory? path = tree.directory? path := by
  have hat := at?_of_perm hstart hperm
  have hstep : other.step = tree.step := by
    funext place name
    unfold step
    rw [hat]
  have hplace : other.placeOf path = tree.placeOf path := by
    unfold placeOf
    rw [hstep, hstart]
  unfold directory?
  rw [hplace, hat]

theorem filesBelow_of_perm (hperm : other.entries.Perm tree.entries) (place : Place) :
    (other.filesBelow place).Perm (tree.filesBelow place) :=
  hperm.filterMap _

end Tree

end Files

end Toolbench
