import Mathlib.Algebra.GroupWithZero.Nat
import Toolbench.Proofs.Registry.Sharing
import Toolbench.Proofs.Script.Deletion

/-!
# Numbers of a load

Each tool that a script registers either is one more in the catalog or takes over the name of
another, which is recorded. So the numbers that the scripts of a load answer add up to the tools
that are there at its end and the names that were taken over.
-/

namespace Toolbench

namespace Script

open Files
open Text (Bytes)

/-! ## Registries that take tools in -/

/-- A registry that took in a number of tools. -/
structure Grown (before after : Registry) (count : Nat) : Prop where
  policy : after.policy = before.policy
  balance : after.current.size + after.current.overwritten.length =
    before.current.size + before.current.overwritten.length + count
  overwritten : before.policy = .reject → after.current.overwritten = before.current.overwritten

theorem Grown.refl (registry : Registry) : Grown registry registry 0 where
  policy := rfl
  balance := rfl
  overwritten _ := rfl

theorem Grown.trans {before middle after : Registry} {first second : Nat}
    (hfirst : Grown before middle first) (hsecond : Grown middle after second) :
    Grown before after (first + second) where
  policy := hsecond.policy.trans hfirst.policy
  balance := by
    rw [hsecond.balance, hfirst.balance, Nat.add_assoc]
  overwritten hreject :=
    (hsecond.overwritten (hfirst.policy.trans hreject)).trans (hfirst.overwritten hreject)

theorem grown_withTools {registry : Registry} {tools : List Tool}
    (hadmits : Catalog.Admits registry.policy registry.current (tools.map (·.name))) :
    Grown registry (withTools registry tools) tools.length where
  policy := rfl
  balance := registry.current.size_add_overwritten_insertAll tools
  overwritten hreject := by
    rw [hreject] at hadmits
    exact Catalog.overwritten_of_reject
      ((Catalog.registerAll_eq_ok_iff _ _ _ _).mpr ⟨hadmits, rfl⟩)

/-- The number that a script answers is that of the tools that it registers. -/
theorem grown_evaluateFile {path : String} {text : Except Files.Fault String}
    {registry after : Registry} {count : Nat}
    (hevaluate : evaluateFile path text registry = (.ok count, after)) :
    Grown registry after count := by
  cases text with
  | error fault => cases hevaluate
  | ok text =>
      rw [evaluateFile, evaluate_eq] at hevaluate
      cases hdeclared : declaredIn path text with
      | error fault =>
          rw [hdeclared] at hevaluate
          cases hevaluate
      | ok tools =>
          rw [hdeclared, conclude] at hevaluate
          rcases registerAll_eq registry tools with ⟨error, hregister, -⟩ | ⟨hregister, hadmits⟩
          · rw [hregister] at hevaluate
            cases hevaluate
          · rw [hregister] at hevaluate
            obtain ⟨hcount, rfl⟩ := Prod.mk.inj hevaluate
            obtain rfl := Except.ok.inj hcount
            exact grown_withTools hadmits

/-! ## Scripts one after the other -/

/-- Scripts in order, each with the answer to its evaluation. -/
def evaluations (registry : Registry) :
    List ScriptFile → List (ScriptFile × Except ScriptFault Nat)
  | [] => []
  | file :: files =>
      let (answer, after) := evaluateFile file.path (Tree.textOf file.content) registry
      (file, answer) :: evaluations after files

def toolCount? (entry : ScriptFile × Except ScriptFault Nat) : Option Nat :=
  entry.2.toOption

/-- The report of a script, if it fails. -/
def failure? (entry : ScriptFile × Except ScriptFault Nat) : Option LoadFailure :=
  match entry.2 with
  | .ok _ => none
  | .error fault => some ⟨entry.1.path, fault⟩

theorem map_fst_evaluations (registry : Registry) (files : List ScriptFile) :
    (evaluations registry files).map Prod.fst = files := by
  induction files generalizing registry with
  | nil => rfl
  | cons file files ih => rw [evaluations, List.map_cons, ih]

theorem map_report_evaluateAll (registry : Registry) (files : List ScriptFile) :
    (evaluateAll registry files).2.map report =
      (evaluations registry files).filterMap failure? := by
  induction files generalizing registry with
  | nil => rfl
  | cons file files ih =>
      rcases evaluateFile_cases file.path (Tree.textOf file.content) registry with
        ⟨count, after, hevaluate⟩ | ⟨fault, hevaluate⟩
      · rw [evaluateAll_cons_ok hevaluate, evaluations, hevaluate, ih]
        rfl
      · rw [evaluateAll_cons_error hevaluate, evaluations, hevaluate, List.map_cons, ih]
        rfl

/-- The tools of a run of scripts are as many as the scripts answer. -/
theorem grown_evaluateAll (registry : Registry) (files : List ScriptFile) :
    Grown registry (evaluateAll registry files).1
      ((evaluations registry files).filterMap toolCount?).sum := by
  induction files generalizing registry with
  | nil => exact .refl registry
  | cons file files ih =>
      rcases evaluateFile_cases file.path (Tree.textOf file.content) registry with
        ⟨count, after, hevaluate⟩ | ⟨fault, hevaluate⟩
      · rw [evaluateAll_cons_ok hevaluate, evaluations, hevaluate]
        exact (grown_evaluateFile hevaluate).trans (ih after)
      · rw [evaluateAll_cons_error hevaluate, evaluations, hevaluate]
        exact ih registry

/-! ## Loads -/

/-- The numbers of a load are those of its scripts. It counts the scripts that it found, in
ascending order of their places and each once, and the ones among them that failed. Its tools and
the names that were taken over are together as many as the tools that the others answer; where
names that are taken are refused, none is taken over. -/
theorem load_balances {root : Bytes} {tree : Tree} {registry after : Registry}
    {summary : LoadSummary} (hload : load root tree registry = (.ok summary, after)) :
    ∃ files, discover root tree = .ok files ∧
      (files.map (·.place)).Nodup ∧ Ascending files ∧
      summary.filesProcessed = files.length ∧
      summary.failures =
        (evaluations { policy := registry.policy } files).filterMap failure? ∧
      summary.filesFailed = summary.failures.length ∧
      (summary.failures.map (·.path)).Sublist (files.map (·.path)) ∧
      summary.toolsLoaded = after.current.size ∧
      summary.toolsLoaded + after.current.overwritten.length =
        ((evaluations { policy := registry.policy } files).filterMap toolCount?).sum ∧
      (registry.policy = .reject →
        after.current.overwritten = [] ∧
        summary.toolsLoaded =
          ((evaluations { policy := registry.policy } files).filterMap toolCount?).sum) := by
  cases hdiscover : discover root tree with
  | error fault =>
      unfold load at hload
      rw [hdiscover] at hload
      cases hload
  | ok files =>
      rw [load_eq_evaluateAll hdiscover] at hload
      obtain ⟨hsummary, rfl⟩ := Prod.mk.inj hload
      obtain rfl := Except.ok.inj hsummary
      obtain ⟨hascending, -⟩ := discovered hdiscover
      have hgrown := grown_evaluateAll { policy := registry.policy } files
      have hbalance := hgrown.balance.trans (Nat.zero_add _)
      refine ⟨files, rfl, ?_, hascending, rfl, map_report_evaluateAll _ files,
        (List.length_map _).symm, ?_, rfl, hbalance, ?_⟩
      · exact List.pairwise_map.mpr (List.Pairwise.imp (fun hplaces => hplaces.2) hascending)
      · have hfailed := (failed_sublist { policy := registry.policy } files).map (·.path)
        rwa [List.map_map] at hfailed ⊢
      · intro hreject
        have hnone := hgrown.overwritten hreject
        rw [hnone] at hbalance
        exact ⟨hnone, hbalance⟩

/-- Two scripts with a tool of one name, and two that fail. -/
theorem load_balances_shared :
    ∃ summary after, load (Text.Utf8.encode "tools") sampleTree { policy := .overwrite } =
        (.ok summary, after) ∧
      summary.filesProcessed = 4 ∧ summary.filesFailed = 2 ∧
      summary.failures.map (·.path) = ["tools/c.yaml", "tools/d.yaml"] ∧
      after.current.overwritten = ["shared"] ∧
      summary.toolsLoaded + after.current.overwritten.length = 2 := by
  have hdiscover := discover_of_ordered
    (show sampleTree.directory? (Text.Utf8.encode "tools") = some [Text.Utf8.encode "tools"] by
      decide +kernel)
    (by decide +kernel)
    (show base? (Text.Utf8.encode "tools") = some (Text.Utf8.encode "tools") by decide +kernel)
    (by decide +kernel)
  have hload := load_eq_evaluateAll hdiscover { policy := .overwrite }
  obtain ⟨files, hfiles, -, -, hprocessed, hfailures, hfailed, -, -, hbalance, -⟩ :=
    load_balances hload
  have hfound := Except.ok.inj (hdiscover.symm.trans hfiles)
  have hoverwritten :
      (load (Text.Utf8.encode "tools") sampleTree { policy := .overwrite }).2.current.overwritten =
        ["shared"] := by
    rw [hload]
    decide +kernel
  rw [hload] at hoverwritten
  have hanswers : (evaluations { policy := .overwrite } files).map
        (fun entry => (toolCount? entry, (failure? entry).map (·.path))) =
      [(some 1, none), (some 1, none), (none, some "tools/c.yaml"),
        (none, some "tools/d.yaml")] := by
    rw [← hfound]
    decide +kernel
  have hcounts := congrArg (List.filterMap Prod.fst) hanswers
  have hpaths := congrArg (List.filterMap Prod.snd) hanswers
  rw [List.filterMap_map] at hcounts hpaths
  have hreported : (evaluations { policy := .overwrite } files).filterMap
      (fun entry => (failure? entry).map (·.path)) = ["tools/c.yaml", "tools/d.yaml"] := hpaths
  rw [← List.map_filterMap, ← hfailures] at hreported
  refine ⟨_, _, hload, ?_, ?_, hreported, hoverwritten, ?_⟩
  · rw [hprocessed, ← map_fst_evaluations { policy := .overwrite } files, List.length_map]
    exact (List.length_map _).symm.trans (congrArg List.length hanswers)
  · rw [hfailed, ← List.length_map (·.path), hreported]
    rfl
  · exact hbalance.trans (congrArg List.sum hcounts)

end Script

end Toolbench
