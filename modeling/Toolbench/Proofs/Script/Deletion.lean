import Toolbench.Proofs.Files.Removal
import Toolbench.Proofs.Script.Directory
import Toolbench.Proofs.Script.Evaluation
import Toolbench.Script.Loading

/-!
# Failed scripts removed

A script that fails leaves the registry of its load as it was.  A load where some of the failed
scripts are gone comes to the same catalog, and reports the others as before.
-/

namespace Toolbench

namespace Script

open Files
open Text (Bytes)

theorem evaluateFile_cases (path : String) (text : Except Files.Fault String)
    (registry : Registry) :
    (∃ count after, evaluateFile path text registry = (.ok count, after)) ∨
      ∃ fault, evaluateFile path text registry = (.error fault, registry) := by
  cases text with
  | error fault => exact .inr ⟨_, rfl⟩
  | ok text =>
      have hconclude : evaluateFile path (.ok text) registry =
          conclude path registry (declaredIn path text) := evaluate_eq path text registry
      rw [hconclude]
      cases hresult : (conclude path registry (declaredIn path text)).1 with
      | ok count => exact .inl ⟨count, _, Prod.ext hresult rfl⟩
      | error fault => exact .inr ⟨fault, Prod.ext hresult (conclude_error hresult)⟩

/-! ## Scripts one after the other -/

/-- The registry after scripts in order, and those that fail, each with its fault. -/
def evaluateAll (registry : Registry) :
    List ScriptFile → Registry × List (ScriptFile × ScriptFault)
  | [] => (registry, [])
  | file :: files =>
      match evaluateFile file.path (Tree.textOf file.content) registry with
      | (.ok _, after) => evaluateAll after files
      | (.error fault, after) =>
          let (last, failed) := evaluateAll after files
          (last, (file, fault) :: failed)

def report (entry : ScriptFile × ScriptFault) : LoadFailure :=
  ⟨entry.1.path, entry.2⟩

section EvaluateAll

variable {registry after : Registry} {file : ScriptFile} {files : List ScriptFile}

theorem evaluateAll_cons_ok {count : Nat}
    (hevaluate : evaluateFile file.path (Tree.textOf file.content) registry = (.ok count, after)) :
    evaluateAll registry (file :: files) = evaluateAll after files := by
  rw [evaluateAll, hevaluate]

theorem evaluateAll_cons_error {fault : ScriptFault}
    (hevaluate : evaluateFile file.path (Tree.textOf file.content) registry =
      (.error fault, registry)) :
    evaluateAll registry (file :: files) =
      ((evaluateAll registry files).1, (file, fault) :: (evaluateAll registry files).2) := by
  rw [evaluateAll, hevaluate]

theorem foldl_step_eq (state : LoadState) (files : List ScriptFile) :
    files.foldl LoadState.step state =
      { staging := (evaluateAll state.staging files).1
        filesFailed := state.filesFailed + (evaluateAll state.staging files).2.length
        failures := state.failures ++ (evaluateAll state.staging files).2.map report } := by
  induction files generalizing state with
  | nil =>
      simp [evaluateAll]
  | cons file files ih =>
      rw [List.foldl_cons, ih]
      rcases evaluateFile_cases file.path (Tree.textOf file.content) state.staging with
        ⟨count, after, hevaluate⟩ | ⟨fault, hevaluate⟩
      · rw [evaluateAll_cons_ok hevaluate]
        simp only [LoadState.step, hevaluate]
      · rw [evaluateAll_cons_error hevaluate]
        simp only [LoadState.step, hevaluate, List.length_cons, List.map_cons, List.append_assoc,
          List.singleton_append, report, LoadState.mk.injEq, true_and, and_true]
        omega

theorem failed_sublist (registry : Registry) (files : List ScriptFile) :
    ((evaluateAll registry files).2.map Prod.fst).Sublist files := by
  induction files generalizing registry with
  | nil =>
      exact List.Sublist.refl []
  | cons file files ih =>
      rcases evaluateFile_cases file.path (Tree.textOf file.content) registry with
        ⟨count, after, hevaluate⟩ | ⟨fault, hevaluate⟩
      · rw [evaluateAll_cons_ok hevaluate]
        exact (ih after).cons file
      · rw [evaluateAll_cons_error hevaluate]
        exact (ih registry).cons_cons file

theorem mem_of_mem_failed {entry : ScriptFile × ScriptFault}
    (hentry : entry ∈ (evaluateAll registry files).2) : entry.1 ∈ files :=
  (failed_sublist registry files).subset (List.mem_map_of_mem hentry)

/-- Scripts that fail can be left out: the registry and the other faults stay the same. -/
theorem evaluateAll_filter (registry : Registry) (keep : ScriptFile → Bool)
    {files : List ScriptFile} (hdistinct : files.Nodup)
    (hkeep : ∀ file ∈ files, keep file = false →
      file ∈ (evaluateAll registry files).2.map Prod.fst) :
    evaluateAll registry (files.filter keep) =
      ((evaluateAll registry files).1,
        (evaluateAll registry files).2.filter fun entry => keep entry.1) := by
  induction files generalizing registry with
  | nil =>
      rfl
  | cons file files ih =>
      obtain ⟨hfirst, hothers⟩ := List.nodup_cons.mp hdistinct
      rcases evaluateFile_cases file.path (Tree.textOf file.content) registry with
        ⟨count, after, hevaluate⟩ | ⟨fault, hevaluate⟩
      · rw [evaluateAll_cons_ok hevaluate] at hkeep ⊢
        -- it is not among those that fail later: no script is listed twice
        have hkept : keep file = true := by
          by_contra hnot
          have hfailed := hkeep file List.mem_cons_self (Bool.not_eq_true _ ▸ hnot)
          exact hfirst ((failed_sublist after files).subset hfailed)
        rw [List.filter_cons_of_pos hkept, evaluateAll_cons_ok hevaluate]
        apply ih after hothers
        intro other hother
        exact hkeep other (List.mem_cons_of_mem file hother)
      · rw [evaluateAll_cons_error hevaluate] at hkeep ⊢
        have hrest : evaluateAll registry (files.filter keep) =
            ((evaluateAll registry files).1,
              (evaluateAll registry files).2.filter fun entry => keep entry.1) := by
          apply ih registry hothers
          intro other hother hleft
          have hfailed := hkeep other (List.mem_cons_of_mem file hother) hleft
          rcases List.mem_cons.mp hfailed with heq | hmem
          · subst heq
            exact absurd hother hfirst
          · exact hmem
        by_cases hkept : keep file = true
        · rw [List.filter_cons_of_pos hkept, evaluateAll_cons_error hevaluate, hrest]
          simp only [List.filter_cons, hkept, if_true]
        · rw [List.filter_cons_of_neg hkept, hrest]
          simp only [List.filter_cons, hkept, Bool.false_eq_true, if_false]

end EvaluateAll

/-! ## Scripts below a root -/

section Discover

variable {root : Bytes} {rest tree : Tree} {files others : List ScriptFile}

theorem Ascending.distinct (h : Ascending files) : files.Nodup :=
  List.Pairwise.imp (fun hplaces heq => hplaces.2 (congrArg ScriptFile.place heq)) h

theorem Ascending.eq_of_place (h : Ascending files) {file other : ScriptFile}
    (hfile : file ∈ files) (hother : other ∈ files) (hplace : file.place = other.place) :
    file = other := by
  have hplaces : (files.map (·.place)).Nodup :=
    List.pairwise_map.mpr (List.Pairwise.imp (fun hpair => hpair.2) h)
  exact List.inj_on_of_nodup_map hplaces hfile hother hplace

/-- There is one ascending order of scripts. -/
theorem Ascending.eq_of_mem_iff (h : Ascending files) (hothers : Ascending others)
    (hsame : ∀ file, file ∈ others ↔ file ∈ files) : others = files := by
  have hperm : others.Perm files :=
    (List.perm_ext_iff_of_nodup hothers.distinct h.distinct).mpr hsame
  refine hperm.eq_of_pairwise ?_ hothers h
  intro a b ha hb hab hba
  exact h.eq_of_place ((hsame a).mp ha) hb (Place.before_antisymm hab.1 hba.1)

/-- The place in the tree of what names below a root lead to. -/
def under (root : Bytes) (tree : Tree) (names : Place) : Place :=
  (tree.directory? root).getD [] ++ names

theorem IsBelow.at?_under {file : ScriptFile} (h : IsBelow root tree file) :
    tree.at? (under root tree file.place) = some (.file file.content) := by
  obtain ⟨place, base, names, content, hplace, -, hat, -, rfl⟩ := h
  show tree.at? ((tree.directory? root).getD [] ++ names) = some (.file content)
  rw [hplace, Option.getD_some]
  exact hat

theorem isBelow_of_lacks {deleted : List Place}
    (hlacks : rest.Lacks tree (deleted.map (under root tree)))
    (hfiles : ∀ names ∈ deleted, tree.at? (under root tree names) ≠ some .directory)
    (file : ScriptFile) :
    IsBelow root rest file ↔ IsBelow root tree file ∧ file.place ∉ deleted := by
  have hdirectory : rest.directory? root = tree.directory? root :=
    hlacks.directory?_eq (List.forall_mem_map.mpr hfiles) root
  have hremains : ∀ {place names content}, tree.directory? root = some place →
      (rest.at? (place ++ names) = some (.file content) ↔
        tree.at? (place ++ names) = some (.file content) ∧ names ∉ deleted) := by
    intro place names content hplace
    have hnames : place ++ names ∈ deleted.map (under root tree) ↔ names ∈ deleted := by
      simp only [under, hplace, Option.getD_some, List.mem_map, List.append_cancel_left_eq,
        exists_eq_right]
    rw [hlacks.at?_eq_file_iff, hnames]
    exact and_comm
  unfold IsBelow
  rw [hdirectory]
  constructor
  · intro ⟨place, base, names, content, hplace, hbase, hat, hscript, hfile⟩
    obtain ⟨hold, hkept⟩ := (hremains hplace).mp hat
    refine ⟨⟨place, base, names, content, hplace, hbase, hold, hscript, hfile⟩, ?_⟩
    rw [hfile]
    exact hkept
  · intro ⟨⟨place, base, names, content, hplace, hbase, hat, hscript, hfile⟩, hkept⟩
    rw [hfile] at hkept
    exact ⟨place, base, names, content, hplace, hbase, (hremains hplace).mpr ⟨hat, hkept⟩,
      hscript, hfile⟩

/-- Where scripts are gone, the others are found in their order. -/
theorem discover_of_lacks (hdiscover : discover root tree = .ok files) {deleted : List Place}
    (hlacks : rest.Lacks tree (deleted.map (under root tree)))
    (hdeleted : ∀ names ∈ deleted, ∃ file ∈ files, file.place = names) :
    discover root rest = .ok (files.filter fun file => file.place ∉ deleted) := by
  obtain ⟨hascending, hbelow⟩ := discovered hdiscover
  have hfiles : ∀ names ∈ deleted, tree.at? (under root tree names) ≠ some .directory := by
    intro names hnames
    obtain ⟨file, hfile, rfl⟩ := hdeleted names hnames
    rw [((hbelow file).mp hfile).at?_under]
    simp
  have hdirectory : rest.directory? root = tree.directory? root :=
    hlacks.directory?_eq (List.forall_mem_map.mpr hfiles) root
  cases hrest : discover root rest with
  | error fault =>
      have hrefused := (discover_eq_error_iff root rest).mp ⟨fault, hrest⟩
      rw [hdirectory] at hrefused
      obtain ⟨other, hother⟩ := (discover_eq_error_iff root tree).mpr hrefused
      rw [hdiscover] at hother
      cases hother
  | ok others =>
      obtain ⟨hothers, hremaining⟩ := discovered hrest
      have hkept : Ascending (files.filter fun file => file.place ∉ deleted) :=
        List.Pairwise.sublist List.filter_sublist hascending
      rw [hkept.eq_of_mem_iff hothers]
      intro file
      rw [hremaining, isBelow_of_lacks hlacks hfiles, List.mem_filter, hbelow, decide_eq_true_eq]

/-- Any of the scripts can be removed from a tree. -/
theorem lacks_foldl_remove (hdiscover : discover root tree = .ok files) (hsound : tree.Sound)
    {deleted : List Place} (hdistinct : deleted.Nodup)
    (hdeleted : ∀ names ∈ deleted, ∃ file ∈ files, file.place = names) :
    ((deleted.map (under root tree)).foldl Tree.remove tree).Lacks tree
      (deleted.map (under root tree)) := by
  obtain ⟨-, hbelow⟩ := discovered hdiscover
  have hinjective : Function.Injective (under root tree) := fun names others heq =>
    List.append_cancel_left heq
  apply hsound.lacks_foldl_remove (hdistinct.map hinjective)
  rw [List.forall_mem_map]
  intro names hnames
  obtain ⟨file, hfile, rfl⟩ := hdeleted names hnames
  exact ⟨file.content, ((hbelow file).mp hfile).at?_under⟩

end Discover

/-! ## Loads -/

theorem load_eq_evaluateAll {root : Bytes} {tree : Tree} {files : List ScriptFile}
    (hdiscover : discover root tree = .ok files) (registry : Registry) :
    load root tree registry =
      let loaded := evaluateAll { policy := registry.policy } files
      (.ok { toolsLoaded := loaded.1.current.size, filesProcessed := files.length
             filesFailed := loaded.2.length, failures := loaded.2.map report },
        registry.replace loaded.1.current) := by
  unfold load
  rw [hdiscover]
  simp only [LoadState.run, foldl_step_eq, Nat.zero_add, List.nil_append]

/-- Wherever any of the scripts that failed are gone, a load comes to the same registry, and its
reports are those of the scripts that are still there. -/
theorem load_without_failed {root : Bytes} {tree : Tree} {registry after : Registry}
    {summary : LoadSummary} (hload : load root tree registry = (.ok summary, after)) :
    ∃ files failed, discover root tree = .ok files ∧
      failed = (evaluateAll { policy := registry.policy } files).2 ∧
      summary.failures = failed.map report ∧
      ∀ (deleted : List Place) (rest : Tree) (previous : Registry),
        (∀ names ∈ deleted, ∃ entry ∈ failed, entry.1.place = names) →
        rest.Lacks tree (deleted.map (under root tree)) →
        previous.policy = registry.policy →
        ∃ others, load root rest previous = (.ok others, after) ∧
          others.failures =
            (failed.filter fun entry => entry.1.place ∉ deleted).map report ∧
          others.toolsLoaded = summary.toolsLoaded ∧
          others.filesFailed = others.failures.length := by
  cases hdiscover : discover root tree with
  | error fault =>
      unfold load at hload
      rw [hdiscover] at hload
      cases hload
  | ok files =>
      rw [load_eq_evaluateAll hdiscover] at hload
      obtain ⟨hsummary, hafter⟩ := Prod.mk.inj hload
      obtain rfl := Except.ok.inj hsummary
      obtain ⟨hascending, -⟩ := discovered hdiscover
      refine ⟨files, _, rfl, rfl, rfl, ?_⟩
      intro deleted rest previous hdeleted hlacks hpolicy
      have hrest : discover root rest = .ok (files.filter fun file => file.place ∉ deleted) := by
        refine discover_of_lacks hdiscover hlacks ?_
        intro names hnames
        obtain ⟨entry, hentry, hplace⟩ := hdeleted names hnames
        exact ⟨entry.1, mem_of_mem_failed hentry, hplace⟩
      have hsame := evaluateAll_filter { policy := registry.policy }
        (fun file => file.place ∉ deleted) hascending.distinct (by
          intro file hfile hgone
          rw [decide_eq_false_iff_not, not_not] at hgone
          obtain ⟨entry, hentry, hplace⟩ := hdeleted file.place hgone
          have heq := hascending.eq_of_place (mem_of_mem_failed hentry) hfile hplace
          exact heq ▸ List.mem_map_of_mem hentry)
      have hagain := load_eq_evaluateAll hrest previous
      simp only [hpolicy, hsame, Registry.replace] at hagain
      rw [← hafter]
      exact ⟨_, hagain, rfl, rfl, (List.length_map _).symm⟩

/-- Files that are listed in order are found as they are listed. -/
theorem discover_of_ordered {root base : Bytes} {tree : Tree} {place : Place}
    (hplace : tree.directory? root = some place)
    (htext : (Text.Utf8.decode? root).isNone = false) (hbase : base? root = some base)
    (hordered : (tree.filesBelow place).Pairwise fun a b => Place.before a.1 b.1 = true) :
    discover root tree =
      .ok (((tree.filesBelow place).filter fun file => isScriptPlace file.1).map
        (scriptFile base)) := by
  have hscripts := List.mergeSort_of_pairwise (hordered.filter fun file => isScriptPlace file.1)
  simp only [discover, hplace, htext, hbase, scriptsAmong, hscripts, Bool.false_eq_true, if_false]

/-- The places of a script, of one with a tool of the same name, of one that is no text and of
one that is no document, and what they hold. -/
def sampleTree : Tree where
  entries :=
    let script := Text.Utf8.encode
      "tools:\n  - name: shared\n    handler:\n      shell:\n        command: echo\n"
    [([Text.Utf8.encode "tools", Text.Utf8.encode "a.yaml"], .file script),
      ([Text.Utf8.encode "tools", Text.Utf8.encode "b.yaml"], .file script),
      ([Text.Utf8.encode "tools", Text.Utf8.encode "c.yaml"], .file [0xFF]),
      ([Text.Utf8.encode "tools", Text.Utf8.encode "d.yaml"],
        .file (Text.Utf8.encode "tools: ["))]
  distinct := by decide

/-- Three scripts fail; two of them are gone from the tree that is loaded next. -/
theorem load_without_failed_two :
    let root := Text.Utf8.encode "tools"
    let deleted := [[Text.Utf8.encode "b.yaml"], [Text.Utf8.encode "c.yaml"]]
    let rest := (deleted.map (under root sampleTree)).foldl Tree.remove sampleTree
    ∃ summary others after, load root sampleTree {} = (.ok summary, after) ∧
      summary.failures.map (·.path) = ["tools/b.yaml", "tools/c.yaml", "tools/d.yaml"] ∧
      after.current.names = ["shared"] ∧ load root rest {} = (.ok others, after) ∧
      others.failures.map (·.path) = ["tools/d.yaml"] := by
  intro root deleted rest
  have hdiscover := discover_of_ordered
    (show sampleTree.directory? root = some [root] by decide +kernel) (by decide +kernel)
    (show base? root = some root by decide +kernel) (by decide +kernel)
  have hload := load_eq_evaluateAll hdiscover {}
  obtain ⟨files, failed, hfiles, hfailed, hfailures, hrest⟩ := load_without_failed hload
  obtain rfl := Except.ok.inj (hdiscover.symm.trans hfiles)
  -- one evaluation of the scripts serves all that follows
  have hevaluated : ((load root sampleTree {}).2.current.names,
      failed.map fun entry => (entry.1.place, (report entry).path)) =
      (["shared"], [([Text.Utf8.encode "b.yaml"], "tools/b.yaml"),
        ([Text.Utf8.encode "c.yaml"], "tools/c.yaml"),
        ([Text.Utf8.encode "d.yaml"], "tools/d.yaml")]) := by
    rw [hload, hfailed]
    decide +kernel
  obtain ⟨hnames, hentries⟩ := Prod.mk.inj hevaluated
  rw [hload] at hnames
  have hdeleted : ∀ names ∈ deleted, ∃ entry ∈ failed, entry.1.place = names := by
    intro names hmem
    have hplaces := congrArg (List.map Prod.fst) hentries
    rw [List.map_map] at hplaces
    apply List.mem_map.mp
    change names ∈ failed.map (Prod.fst ∘ fun entry => (entry.1.place, (report entry).path))
    rw [hplaces]
    exact List.mem_append_left [[Text.Utf8.encode "d.yaml"]] hmem
  have hlacks : rest.Lacks sampleTree (deleted.map (under root sampleTree)) := by
    apply lacks_foldl_remove hdiscover (by decide) (by decide)
    intro names hmem
    obtain ⟨entry, hentry, hplace⟩ := hdeleted names hmem
    rw [hfailed] at hentry
    exact ⟨entry.1, mem_of_mem_failed hentry, hplace⟩
  obtain ⟨others, hothers, hremaining, -, -⟩ := hrest deleted rest {} hdeleted hlacks rfl
  refine ⟨_, others, _, hload, ?_, hnames, hothers, ?_⟩
  · have hpaths := congrArg (List.map Prod.snd) hentries
    rw [List.map_map] at hpaths
    rw [hfailures, List.map_map]
    exact hpaths
  · have hkept := congrArg (List.filter fun entry => entry.1 ∉ deleted) hentries
    rw [List.filter_map] at hkept
    have hpaths := congrArg (List.map Prod.snd) hkept
    rw [List.map_map] at hpaths
    rw [hremaining, List.map_map]
    exact hpaths.trans (by decide)

end Script

end Toolbench
