import Mathlib.Data.List.FinRange
import Toolbench.Proofs.Script.Directory
import Toolbench.Proofs.Script.Evaluation
import Toolbench.Script.Loading

/-!
# Loaded catalogs

What a load leaves depends on the scripts below the root alone.  A script contributes its tools
if it declares them without fault and, where names are not overwritten, shares no name with an
earlier script that contributes.
-/

namespace Toolbench

namespace Script

open Files
open Text (Bytes)

/-! ## Scripts that contribute -/

/-- What a script registers where nothing is registered, unless it cannot be read or is refused. -/
def ScriptFile.tools? (file : ScriptFile) : Option (List Tool) :=
  match evaluateFile file.path (Tree.textOf file.content) {} with
  | (.ok _, registry) => some registry.current.tools
  | (.error _, _) => none

/-- The tools that the script at a place declares. -/
def toolsAt (files : List ScriptFile) (place : Nat) : List Tool :=
  (files[place]?.bind ScriptFile.tools?).getD []

/-- Whether tools share a name with other tools. -/
def sharesName (tools others : List Tool) : Bool :=
  tools.any fun tool => others.any fun other => tool.name == other.name

/-- Whether the script at a place contributes its tools. -/
def contributes (policy : DuplicatePolicy) (files : List ScriptFile) (place : Nat) : Bool :=
  match files[place]?.bind ScriptFile.tools? with
  | none => false
  | some tools =>
      policy = .overwrite ||
        (List.finRange place).all fun earlier =>
          !(contributes policy files earlier.val && sharesName tools (toolsAt files earlier.val))
termination_by place
decreasing_by exact earlier.isLt

/-- The tools of the contributing ones among the first scripts, in order. -/
def contributedBy (policy : DuplicatePolicy) (files : List ScriptFile) (count : Nat) :
    List Tool :=
  ((List.range count).filter (contributes policy files)).flatMap (toolsAt files)

/-- The ones among the first scripts that do not contribute, in order. -/
def omittedBy (policy : DuplicatePolicy) (files : List ScriptFile) (count : Nat) :
    List ScriptFile :=
  ((List.range count).filter fun place => !contributes policy files place).filterMap (files[·]?)

def contributed (policy : DuplicatePolicy) (files : List ScriptFile) : List Tool :=
  contributedBy policy files files.length

def omitted (policy : DuplicatePolicy) (files : List ScriptFile) : List ScriptFile :=
  omittedBy policy files files.length

variable {policy : DuplicatePolicy} {files : List ScriptFile}

theorem contributedBy_succ (policy : DuplicatePolicy) (files : List ScriptFile) (count : Nat) :
    contributedBy policy files (count + 1) =
      contributedBy policy files count ++
        if contributes policy files count then toolsAt files count else [] := by
  simp only [contributedBy, List.range_succ, List.filter_append, List.flatMap_append]
  cases hcontributes : contributes policy files count <;> simp [hcontributes]

theorem omittedBy_succ (policy : DuplicatePolicy) {count : Nat} {file : ScriptFile}
    (hfile : files[count]? = some file) :
    omittedBy policy files (count + 1) =
      omittedBy policy files count ++ if contributes policy files count then [] else [file] := by
  simp only [omittedBy, List.range_succ, List.filter_append, List.filterMap_append]
  cases hcontributes : contributes policy files count <;> simp [hcontributes, hfile]

theorem omittedBy_sublist (policy : DuplicatePolicy) (files : List ScriptFile) {count : Nat}
    (hcount : count ≤ files.length) :
    (omittedBy policy files count).Sublist (files.take count) := by
  induction count with
  | zero =>
      exact List.Sublist.refl []
  | succ count ih =>
      obtain ⟨file, hfile⟩ : ∃ file, files[count]? = some file :=
        ⟨_, List.getElem?_eq_getElem hcount⟩
      rw [omittedBy_succ policy hfile, List.take_add_one, hfile]
      refine (ih (by omega)).append ?_
      split
      · exact List.nil_sublist _
      · exact List.Sublist.refl [file]

/-- Each script that does not contribute is listed once, in the order of all. -/
theorem ascending_omitted (policy : DuplicatePolicy) (hfiles : Ascending files) :
    Ascending (omitted policy files) := by
  have hsublist := omittedBy_sublist policy files le_rfl
  rw [List.take_length] at hsublist
  exact List.Pairwise.sublist hsublist hfiles

theorem contributes_of_tools?_eq_none {place : Nat} {file : ScriptFile}
    (hfile : files[place]? = some file) (hnone : file.tools? = none) :
    contributes policy files place = false := by
  unfold contributes
  simp [hfile, hnone]

theorem mem_contributedBy_names (policy : DuplicatePolicy) (files : List ScriptFile) (count : Nat)
    (name : String) :
    name ∈ (contributedBy policy files count).map (·.name) ↔
      ∃ earlier < count, contributes policy files earlier = true ∧
        ∃ other ∈ toolsAt files earlier, other.name = name := by
  simp only [contributedBy, List.mem_map, List.mem_flatMap, List.mem_filter, List.mem_range]
  constructor
  · rintro ⟨other, ⟨earlier, ⟨hearlier, hcontributes⟩, hother⟩, rfl⟩
    exact ⟨earlier, hearlier, hcontributes, other, hother, rfl⟩
  · rintro ⟨earlier, hearlier, hcontributes, other, hother, rfl⟩
    exact ⟨other, ⟨earlier, ⟨hearlier, hcontributes⟩, hother⟩, rfl⟩

/-- A script contributes where its names are taken by no script before it that contributes. -/
theorem contributes_iff {place : Nat} {file : ScriptFile} {tools : List Tool}
    (hfile : files[place]? = some file) (htools : file.tools? = some tools) :
    contributes policy files place = true ↔
      (policy = .reject → ∀ tool ∈ tools,
        tool.name ∉ (contributedBy policy files place).map (·.name)) := by
  unfold contributes
  cases policy with
  | overwrite =>
      simp [hfile, htools]
  | reject =>
      simp only [hfile, htools, Option.bind_some, reduceCtorEq, decide_false, Bool.false_or,
        List.all_eq_true, List.mem_finRange, forall_const, Bool.not_eq_true', Bool.and_eq_false_iff,
        mem_contributedBy_names, not_exists, not_and]
      constructor
      · intro hfree tool htool earlier hearlier hcontributes other hother hname
        rcases hfree ⟨earlier, hearlier⟩ with hnot | hdisjoint
        · simp [hcontributes] at hnot
        · simp only [sharesName, List.any_eq_false, Bool.not_eq_true] at hdisjoint
          simpa [hname] using hdisjoint tool htool other hother
      · intro hfree earlier
        cases hcontributes : contributes .reject files earlier.val with
        | false =>
            exact .inl rfl
        | true =>
            refine .inr ?_
            simp only [sharesName, List.any_eq_false, Bool.not_eq_true, beq_eq_false_iff_ne]
            intro tool htool other hother hname
            exact hfree tool htool earlier.val earlier.isLt hcontributes other hother hname.symm

theorem contributes_overwrite (files : List ScriptFile) (place : Nat) :
    contributes .overwrite files place = (files[place]?.bind ScriptFile.tools?).isSome := by
  unfold contributes
  cases files[place]?.bind ScriptFile.tools? <;> rfl

/-- Where names are overwritten, every script contributes that declares tools without fault. -/
theorem contributedBy_overwrite (files : List ScriptFile) {count : Nat}
    (hcount : count ≤ files.length) :
    contributedBy .overwrite files count =
      (files.take count).flatMap fun file => file.tools?.getD [] := by
  induction count with
  | zero =>
      rfl
  | succ count ih =>
      obtain ⟨file, hfile⟩ : ∃ file, files[count]? = some file :=
        ⟨_, List.getElem?_eq_getElem hcount⟩
      rw [contributedBy_succ, ih (by omega), List.take_add_one, contributes_overwrite, toolsAt,
        hfile]
      cases htools : file.tools? <;> simp [htools]

theorem omittedBy_overwrite (files : List ScriptFile) {count : Nat}
    (hcount : count ≤ files.length) :
    omittedBy .overwrite files count =
      (files.take count).filter fun file => file.tools?.isNone := by
  induction count with
  | zero =>
      rfl
  | succ count ih =>
      obtain ⟨file, hfile⟩ : ∃ file, files[count]? = some file :=
        ⟨_, List.getElem?_eq_getElem hcount⟩
      rw [omittedBy_succ _ hfile, ih (by omega), List.take_add_one, contributes_overwrite, hfile]
      cases htools : file.tools? <;> simp [htools]

/-! ## Scripts on their own -/

theorem ScriptFile.tools?_eq_some_iff (file : ScriptFile) (tools : List Tool) :
    file.tools? = some tools ↔
      ∃ text, Tree.textOf file.content = .ok text ∧ declaredIn file.path text = .ok tools := by
  unfold tools? evaluateFile
  cases Tree.textOf file.content with
  | error fault =>
      simp
  | ok text =>
      simp only [evaluate_eq, Except.ok.injEq, exists_eq_left']
      cases hdeclared : declaredIn file.path text with
      | error fault =>
          simp [conclude]
      | ok declared =>
          have hdistinct := declaredIn_distinct hdeclared
          have hadmits : Catalog.Admits .reject .empty (declared.map (·.name)) :=
            fun _ => ⟨hdistinct, fun _ _ => rfl⟩
          have hlatest := Catalog.coherent_empty.tools_insertAll declared
          have hall : (Catalog.empty.insertAll declared).tools = declared :=
            hlatest.trans (Catalog.latest_eq_self hdistinct)
          rcases registerAll_eq {} declared with ⟨error, -, hnot⟩ | ⟨hregister, -⟩
          · exact absurd hadmits hnot
          · simp only [conclude, hregister, withTools, hall, Except.ok.injEq]
            exact Option.some_inj

theorem ScriptFile.evaluateFile_of_tools?_eq_some {file : ScriptFile} {tools : List Tool}
    (htools : file.tools? = some tools) (registry : Registry) :
    evaluateFile file.path (Tree.textOf file.content) registry =
      conclude file.path registry (.ok tools) := by
  obtain ⟨text, htext, hdeclared⟩ := (file.tools?_eq_some_iff tools).mp htools
  rw [htext, ← hdeclared]
  exact evaluate_eq file.path text registry

theorem ScriptFile.evaluateFile_of_tools?_eq_none {file : ScriptFile} (hnone : file.tools? = none)
    (registry : Registry) :
    ∃ fault, evaluateFile file.path (Tree.textOf file.content) registry =
      (.error fault, registry) := by
  cases htext : Tree.textOf file.content with
  | error fault =>
      exact ⟨_, rfl⟩
  | ok text =>
      cases hdeclared : declaredIn file.path text with
      | error fault =>
          refine ⟨.declaration file.path fault, (evaluate_eq file.path text registry).trans ?_⟩
          rw [hdeclared, conclude]
      | ok tools =>
          rw [(file.tools?_eq_some_iff tools).mpr ⟨text, htext, hdeclared⟩] at hnone
          cases hnone

theorem ScriptFile.distinct_of_tools? {file : ScriptFile} {tools : List Tool}
    (htools : file.tools? = some tools) : (tools.map (·.name)).Nodup := by
  obtain ⟨text, -, hdeclared⟩ := (file.tools?_eq_some_iff tools).mp htools
  exact declaredIn_distinct hdeclared

/-! ## Loads on their way -/

namespace LoadState

/-- A load that has come behind the first scripts. -/
structure Represents (policy : DuplicatePolicy) (files : List ScriptFile) (count : Nat)
    (state : LoadState) : Prop where
  keeps : state.staging.policy = policy
  current : state.staging.current = Catalog.empty.insertAll (contributedBy policy files count)
  failures : state.failures.map (·.path) = (omittedBy policy files count).map (·.path)
  distinct : policy = .reject → ((contributedBy policy files count).map (·.name)).Nodup

theorem Represents.admits_iff {state : LoadState} {count : Nat}
    (h : Represents policy files count state) {file : ScriptFile} {tools : List Tool}
    (hfile : files[count]? = some file) (htools : file.tools? = some tools) :
    Catalog.Admits state.staging.policy state.staging.current (tools.map (·.name)) ↔
      contributes policy files count = true := by
  have htaken : ∀ name, state.staging.current.contains name = false ↔
      name ∉ (contributedBy policy files count).map (·.name) := by
    intro name
    have hiff := Catalog.contains_insertAll .empty (contributedBy policy files count) name
    rw [← h.current] at hiff
    rw [← Bool.not_eq_true, hiff, or_iff_right]
    rintro ⟨⟩
  rw [contributes_iff hfile htools, Catalog.Admits, h.keeps]
  refine forall_congr' fun _ => ?_
  simp only [htaken, List.forall_mem_map, and_iff_right (ScriptFile.distinct_of_tools? htools)]

theorem Represents.step {state : LoadState} {count : Nat} (h : Represents policy files count state)
    {file : ScriptFile} (hfile : files[count]? = some file) :
    Represents policy files (count + 1) (state.step file) := by
  have hcontributed := contributedBy_succ policy files count
  have homitted := omittedBy_succ policy hfile
  -- a script that is refused, on its own or for its names, adds to the reports and no more
  have hfails : ∀ fault, contributes policy files count = false →
      evaluateFile file.path (Tree.textOf file.content) state.staging =
        (.error fault, state.staging) →
      Represents policy files (count + 1) (state.step file) := by
    intro fault hcontributes hevaluate
    simp only [hcontributes, Bool.false_eq_true, if_false, List.append_nil] at hcontributed homitted
    unfold LoadState.step
    simp only [hevaluate]
    refine ⟨h.keeps, ?_, ?_, ?_⟩
    · rw [hcontributed, h.current]
    · rw [homitted, List.map_append, List.map_append, h.failures]
      rfl
    · rw [hcontributed]
      exact h.distinct
  cases htools : file.tools? with
  | none =>
      obtain ⟨fault, hevaluate⟩ :=
        ScriptFile.evaluateFile_of_tools?_eq_none htools state.staging
      exact hfails fault (contributes_of_tools?_eq_none hfile htools) hevaluate
  | some tools =>
      have hevaluate := ScriptFile.evaluateFile_of_tools?_eq_some htools state.staging
      have hadmits := h.admits_iff hfile htools
      rcases registerAll_eq state.staging tools with ⟨error, hregister, hnot⟩ | ⟨hregister, hall⟩
      · rw [hadmits, Bool.not_eq_true] at hnot
        rw [conclude, hregister] at hevaluate
        exact hfails _ hnot hevaluate
      · have hcontributes := hadmits.mp hall
        have htoolsAt : toolsAt files count = tools := by
          simp [toolsAt, hfile, htools]
        rw [conclude, hregister] at hevaluate
        simp only [hcontributes, if_true, htoolsAt, List.append_nil] at hcontributed homitted
        unfold LoadState.step
        simp only [hevaluate]
        refine ⟨h.keeps, ?_, ?_, ?_⟩
        · rw [hcontributed, Catalog.insertAll_append, ← h.current]
          rfl
        · rw [homitted]
          exact h.failures
        · intro hpolicy
          have hfresh := (contributes_iff hfile htools).mp hcontributes hpolicy
          rw [hcontributed, List.map_append]
          refine (h.distinct hpolicy).append (ScriptFile.distinct_of_tools? htools) ?_
          intro name hearlier hname
          obtain ⟨tool, htool, rfl⟩ := List.mem_map.mp hname
          exact hfresh tool htool hearlier

theorem represents_run_take (policy : DuplicatePolicy) (files : List ScriptFile) {count : Nat}
    (hcount : count ≤ files.length) :
    Represents policy files count (run policy (files.take count)) := by
  induction count with
  | zero =>
      exact ⟨rfl, rfl, rfl, fun _ => List.nodup_nil⟩
  | succ count ih =>
      have hfile : files[count]? = some files[count] := List.getElem?_eq_getElem hcount
      have hstep := (ih (by omega)).step hfile
      rw [run, List.take_add_one, hfile, List.foldl_append]
      exact hstep

theorem represents_run (policy : DuplicatePolicy) (files : List ScriptFile) :
    Represents policy files files.length (run policy files) := by
  have hall := represents_run_take policy files le_rfl
  rwa [List.take_length] at hall

end LoadState

/-! ## Loads -/

/-- Of a registry, a load keeps no more than the policy. -/
theorem load_eq_of_policy (root : Bytes) {tree : Tree} {registry previous after : Registry}
    {summary : LoadSummary} (hload : load root tree registry = (.ok summary, after))
    (hpolicy : previous.policy = registry.policy) :
    load root tree previous = (.ok summary, after) := by
  unfold load at hload ⊢
  cases hdiscover : discover root tree with
  | error fault =>
      rw [hdiscover] at hload
      cases hload
  | ok files =>
      rw [hdiscover] at hload
      simp only [← hload, hpolicy, Registry.replace]

theorem load_eq_ok {root : Bytes} {tree : Tree} {registry after : Registry} {summary : LoadSummary}
    (hload : load root tree registry = (.ok summary, after)) :
    ∃ files, discover root tree = .ok files ∧
      after = withTools { policy := registry.policy } (contributed registry.policy files) ∧
      summary.failures.map (·.path) = (omitted registry.policy files).map (·.path) := by
  unfold load at hload
  cases hdiscover : discover root tree with
  | error fault =>
      rw [hdiscover] at hload
      cases hload
  | ok files =>
      have hrun := LoadState.represents_run registry.policy files
      simp only [hdiscover, Prod.mk.injEq, Except.ok.injEq] at hload
      obtain ⟨rfl, rfl⟩ := hload
      refine ⟨files, rfl, ?_, hrun.failures⟩
      rw [hrun.current]
      rfl

/-- The scripts below the root alone determine what a load leaves, whatever was registered before
and however their files are listed: the tools of those that contribute, and a report for each of
the others.  A load that fails leaves the registry as it was. -/
theorem load_contributions (root : Bytes) (tree : Tree) (registry : Registry) :
    (∀ summary after, load root tree registry = (.ok summary, after) →
      ∃ files, Ascending files ∧ (∀ file, file ∈ files ↔ IsBelow root tree file) ∧
        after = withTools { policy := registry.policy } (contributed registry.policy files) ∧
        after.current.Coherent ∧
        summary.failures.map (·.path) = (omitted registry.policy files).map (·.path) ∧
        Ascending (omitted registry.policy files) ∧
        (registry.policy = .reject → after.current.tools = contributed .reject files) ∧
        (registry.policy = .overwrite →
          after.current.tools =
              Catalog.latest (files.flatMap fun file => file.tools?.getD []) ∧
            omitted .overwrite files = files.filter fun file => file.tools?.isNone) ∧
        (∀ previous : Registry, previous.policy = registry.policy →
          load root tree previous = (.ok summary, after))) ∧
    (∀ fault after, load root tree registry = (.error fault, after) → after = registry) ∧
    ((∃ fault, load root tree registry = (.error fault, registry)) ↔
      (tree.directory? root).isSome ∧ Text.Utf8.decode? root = none) ∧
    (∀ listed : Tree, listed.start = tree.start → listed.entries.Perm tree.entries →
      load root listed registry = load root tree registry) := by
  refine ⟨?_, ?_, ?_, ?_⟩
  · intro summary after hload
    obtain ⟨files, hdiscover, rfl, hfailures⟩ := load_eq_ok hload
    obtain ⟨hascending, hbelow⟩ := discovered hdiscover
    refine ⟨files, hascending, hbelow, rfl, Catalog.coherent_empty.insertAll _, hfailures,
      ascending_omitted _ hascending, ?_, ?_, ?_⟩
    · intro hpolicy
      have hdistinct := (LoadState.represents_run registry.policy files).distinct hpolicy
      rw [← hpolicy]
      exact (Catalog.coherent_empty.tools_insertAll _).trans (Catalog.latest_eq_self hdistinct)
    · intro hpolicy
      have htools := contributedBy_overwrite files le_rfl
      have homitted := omittedBy_overwrite files le_rfl
      rw [List.take_length] at htools homitted
      refine ⟨?_, homitted⟩
      rw [← htools, hpolicy]
      exact Catalog.coherent_empty.tools_insertAll _
    · intro previous hprevious
      exact load_eq_of_policy root hload hprevious
  · intro fault after hload
    unfold load at hload
    split at hload
    · exact (Prod.mk.inj hload).2.symm
    · cases hload
  · rw [← discover_eq_error_iff]
    unfold load
    cases discover root tree <;> simp
  · intro listed hstart hperm
    unfold load
    rw [discover_of_perm root hstart hperm]

end Script

end Toolbench
