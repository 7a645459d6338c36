import Mathlib.Data.List.Nodup
import Toolbench.Proofs.Files.Listing
import Toolbench.Proofs.Files.Order
import Toolbench.Script.Directory

/-!
# Discovered scripts

The scripts below a root are found in strictly ascending order of their places, each once, and
in whatever order the tree lists its files.
-/

namespace Toolbench

namespace Script

open Files
open Text (Bytes)

/-- A script below a root: a file with the name of a script at a place in the root's directory. -/
def IsBelow (root : Bytes) (tree : Tree) (file : ScriptFile) : Prop :=
  ∃ place base names content, tree.directory? root = some place ∧ base? root = some base ∧
    tree.at? (place ++ names) = some (.file content) ∧ isScriptPlace names = true ∧
    file = scriptFile base (names, content)

/-- Scripts in strictly ascending order of their places. -/
def Ascending (files : List ScriptFile) : Prop :=
  files.Pairwise fun earlier later =>
    Place.before earlier.place later.place = true ∧ earlier.place ≠ later.place

theorem mem_scriptsAmong_iff (base : Bytes) (files : List (Place × Bytes)) (file : ScriptFile) :
    file ∈ scriptsAmong base files ↔
      ∃ entry ∈ files, isScriptPlace entry.1 = true ∧ file = scriptFile base entry := by
  simp only [scriptsAmong, List.mem_map, (List.mergeSort_perm _ _).mem_iff, List.mem_filter]
  constructor
  · rintro ⟨entry, ⟨hentry, hscript⟩, rfl⟩
    exact ⟨entry, hentry, hscript, rfl⟩
  · rintro ⟨entry, hentry, hscript, rfl⟩
    exact ⟨entry, ⟨hentry, hscript⟩, rfl⟩

theorem pairwise_before_mergeSort (files : List (Place × Bytes)) :
    (files.mergeSort fun a b => Place.before a.1 b.1).Pairwise fun a b =>
      Place.before a.1 b.1 = true := by
  refine List.pairwise_mergeSort ?_ ?_ files
  · intro a b c hab hbc
    exact Place.before_trans hab hbc
  · intro a b
    simpa using Place.before_total a.1 b.1

theorem ascending_scriptsAmong (base : Bytes) {files : List (Place × Bytes)}
    (hdistinct : (files.map (·.1)).Nodup) : Ascending (scriptsAmong base files) := by
  have hsorted := pairwise_before_mergeSort (files.filter fun file => isScriptPlace file.1)
  have hdifferent : ((files.filter fun file => isScriptPlace file.1).mergeSort
      fun a b => Place.before a.1 b.1).Pairwise fun a b => a.1 ≠ b.1 := by
    rw [← List.pairwise_map, ← List.nodup_iff_pairwise_ne]
    rw [((List.mergeSort_perm _ _).map _).nodup_iff]
    exact hdistinct.sublist (List.filter_sublist.map _)
  exact List.pairwise_map.mpr (hsorted.and hdifferent)

/-- Files of different places have one order, so it does not matter how they were listed. -/
theorem scriptsAmong_of_perm (base : Bytes) {files listed : List (Place × Bytes)}
    (hdistinct : (files.map (·.1)).Nodup) (hperm : listed.Perm files) :
    scriptsAmong base listed = scriptsAmong base files := by
  have hscripts := hperm.filter fun file => isScriptPlace file.1
  have hsame : (listed.filter fun file => isScriptPlace file.1).mergeSort
        (fun a b => Place.before a.1 b.1) =
      (files.filter fun file => isScriptPlace file.1).mergeSort
        (fun a b => Place.before a.1 b.1) := by
    refine List.Perm.eq_of_pairwise ?_ (pairwise_before_mergeSort _) (pairwise_before_mergeSort _)
      ((List.mergeSort_perm _ _).trans (hscripts.trans (List.mergeSort_perm _ _).symm))
    intro a b ha hb hab hba
    have hina := hperm.mem_iff.mp (List.mem_filter.mp ((List.mergeSort_perm _ _).mem_iff.mp ha)).1
    have hinb := (List.mem_filter.mp ((List.mergeSort_perm _ _).mem_iff.mp hb)).1
    exact List.inj_on_of_nodup_map hdistinct hina hinb (Place.before_antisymm hab hba)
  unfold scriptsAmong
  rw [hsame]

/-- What is discovered is all that is below the root, in ascending order. -/
theorem discovered {root : Bytes} {tree : Tree} {files : List ScriptFile}
    (hdiscover : discover root tree = .ok files) :
    Ascending files ∧ ∀ file, file ∈ files ↔ IsBelow root tree file := by
  unfold discover at hdiscover
  cases hplace : tree.directory? root with
  | none =>
      rw [hplace] at hdiscover
      obtain rfl := Except.ok.inj hdiscover
      exact ⟨List.Pairwise.nil, by simp [IsBelow, hplace]⟩
  | some place =>
      simp only [hplace] at hdiscover
      split at hdiscover
      · cases hdiscover
      · cases hbase : base? root with
        | none =>
            rw [hbase] at hdiscover
            obtain rfl := Except.ok.inj hdiscover
            exact ⟨List.Pairwise.nil, by simp [IsBelow, hbase]⟩
        | some base =>
            rw [hbase] at hdiscover
            obtain rfl := Except.ok.inj hdiscover
            refine ⟨ascending_scriptsAmong base (tree.filesBelow_distinct place), fun file => ?_⟩
            rw [mem_scriptsAmong_iff]
            constructor
            · rintro ⟨⟨names, content⟩, hentry, hscript, rfl⟩
              have hat := (tree.mem_filesBelow_iff place names content).mp hentry
              exact ⟨place, base, names, content, hplace, hbase, hat, hscript, rfl⟩
            · rintro ⟨place', base', names, content, hplace', hbase', hat, hscript, rfl⟩
              rw [hplace, Option.some.injEq] at hplace'
              rw [hbase, Option.some.injEq] at hbase'
              subst hplace' hbase'
              exact ⟨_, (tree.mem_filesBelow_iff place names content).mpr hat, hscript, rfl⟩

theorem discover_of_perm (root : Bytes) {tree other : Tree} (hstart : other.start = tree.start)
    (hperm : other.entries.Perm tree.entries) : discover root other = discover root tree := by
  unfold discover
  rw [Tree.directory?_of_perm hstart hperm root]
  split
  · rfl
  · rename_i place hplace
    split
    · rfl
    · split
      · rfl
      · rename_i base hbase
        rw [scriptsAmong_of_perm base (tree.filesBelow_distinct place)
          (Tree.filesBelow_of_perm hperm place)]

/-- Only a root that is a directory and whose path is no text is refused. -/
theorem discover_eq_error_iff (root : Bytes) (tree : Tree) :
    (∃ fault, discover root tree = .error fault) ↔
      (tree.directory? root).isSome ∧ Text.Utf8.decode? root = none := by
  unfold discover
  cases hplace : tree.directory? root with
  | none => simp
  | some place =>
      cases htext : Text.Utf8.decode? root with
      | none => simp
      | some text => cases hbase : base? root <;> simp

end Script

end Toolbench
