import Toolbench.Proofs.Registry.Sharing
import Toolbench.Proofs.Stopping

/-!
# Batches of tools

A batch that is registered is a run of insertions into an ordered map. Where names that are taken
are refused, it is refused as a whole for the first such name. Where they are overwritten, each name
keeps its place and has the tool that came last.
-/

namespace Toolbench

namespace Catalog

variable {catalog : Catalog}

/-- Tools with names of their own, none of which is taken. -/
structure Fresh (catalog : Catalog) (tools : List Tool) : Prop where
  distinct : (tools.map (·.name)).Nodup
  untaken : ∀ tool ∈ tools, tool.name ∉ catalog.names

/-- The names of tools that are taken, or those of tools before them, in order and once for each
tool. -/
def repeats (taken : String → Bool) (tools : List Tool) : List String :=
  (tools.zipIdx.filter fun entry =>
    taken entry.1.name || ((tools.take entry.2).map (·.name)).contains entry.1.name).map (·.1.name)

theorem Coherent.contains_eq (h : catalog.Coherent) :
    catalog.contains = fun name => decide (name ∈ catalog.names) := by
  funext name
  rw [Bool.eq_iff_iff, h.contains_iff, decide_eq_true_iff]

theorem Coherent.admits_reject_iff (h : catalog.Coherent) (tools : List Tool) :
    Admits .reject catalog (tools.map (·.name)) ↔ catalog.Fresh tools := by
  simp only [Admits, forall_const, List.forall_mem_map, h.contains_eq, decide_eq_false_iff_not]
  constructor
  · intro hadmits
    exact ⟨hadmits.1, hadmits.2⟩
  · intro hfresh
    exact ⟨hfresh.distinct, hfresh.untaken⟩

/-! ## What is refused -/

theorem registerAll_reject_cons (catalog : Catalog) (tool : Tool) (rest : List Tool) :
    registerAll .reject catalog (tool :: rest) =
      if catalog.contains tool.name then .error ⟨tool.name⟩
      else registerAll .reject (catalog.insert tool) rest := by
  rw [registerAll, register]
  by_cases hthere : catalog.contains tool.name = true
  · simp [hthere]
  · simp [hthere]

/-- A batch is refused for the first tool whose name is taken, or that of a tool before it. -/
theorem registerAll_reject_eq_error_iff (catalog : Catalog) (tools : List Tool)
    (error : DuplicateTool) :
    registerAll .reject catalog tools = .error error ↔
      ∃ earlier tool later, tools = earlier ++ tool :: later ∧
        Admits .reject catalog (earlier.map (·.name)) ∧
        (catalog.contains tool.name = true ∨ tool.name ∈ earlier.map (·.name)) ∧
        error = ⟨tool.name⟩ := by
  induction tools generalizing catalog with
  | nil =>
      simp [registerAll]
  | cons first rest ih =>
      have hadmits : Admits .reject catalog [] := fun _ => ⟨List.nodup_nil, by simp⟩
      rw [registerAll_reject_cons, exists_split_cons_iff]
      simp only [List.map_nil, List.map_cons, admits_cons_iff, hadmits, forall_const]
      by_cases hthere : catalog.contains first.name = true
      · simp only [hthere, if_true, Except.error.injEq, true_or, true_and, reduceCtorEq, false_and,
          and_false, exists_false, or_false]
        exact eq_comm
      · rw [if_neg hthere, ih (catalog.insert first)]
        simp [hthere, contains_insert, or_assoc]

theorem Coherent.registerAll_reject_eq_error_iff (h : catalog.Coherent) (tools : List Tool)
    (error : DuplicateTool) :
    registerAll .reject catalog tools = .error error ↔
      ∃ earlier tool later, tools = earlier ++ tool :: later ∧ catalog.Fresh earlier ∧
        (tool.name ∈ catalog.names ∨ tool.name ∈ earlier.map (·.name)) ∧
        error = ⟨tool.name⟩ := by
  simp only [Catalog.registerAll_reject_eq_error_iff, h.admits_reject_iff, h.contains_iff]

/-- Fresh tools go behind those that are there. -/
theorem Coherent.tools_insertAll_of_fresh (h : catalog.Coherent) {tools : List Tool}
    (hfresh : catalog.Fresh tools) : (catalog.insertAll tools).tools = catalog.tools ++ tools := by
  rw [h.tools_insertAll tools, latest_eq_self]
  rw [List.map_append, List.nodup_append]
  refine ⟨h.names_nodup, hfresh.distinct, ?_⟩
  intro name hname other hother hsame
  obtain ⟨tool, htool, rfl⟩ := List.mem_map.mp hother
  exact hfresh.untaken tool htool (hsame ▸ hname)

/-! ## What is overwritten -/

theorem repeats_cons (taken : String → Bool) (tool : Tool) (rest : List Tool) :
    repeats taken (tool :: rest) =
      (if taken tool.name then [tool.name] else []) ++
        repeats (fun name => taken name || name == tool.name) rest := by
  have hrest : ((rest.zipIdx.map fun entry => (entry.1, entry.2 + 1)).filter fun entry =>
      taken entry.1.name ||
        (((tool :: rest).take entry.2).map (·.name)).contains entry.1.name).map (·.1.name) =
      repeats (fun name => taken name || name == tool.name) rest := by
    rw [List.filter_map, List.map_map, repeats]
    refine congrArg _ (List.filter_congr fun entry _ => ?_)
    rw [Function.comp_apply, List.take_succ_cons, List.map_cons, List.contains_cons,
      Bool.or_assoc]
  rw [← hrest, repeats, List.zipIdx_cons, List.zipIdx_succ, List.filter_cons]
  by_cases hthere : taken tool.name = true
  · simp [hthere]
  · simp [hthere]

/-- A name is overwritten once for each tool that finds it taken. -/
theorem overwritten_insertAll_eq (catalog : Catalog) (tools : List Tool) :
    (catalog.insertAll tools).overwritten =
      catalog.overwritten ++ repeats catalog.contains tools := by
  induction tools generalizing catalog with
  | nil =>
      simp [insertAll, repeats]
  | cons tool rest ih =>
      have hcontains : (catalog.insert tool).contains =
          fun name => catalog.contains name || name == tool.name :=
        funext (contains_insert catalog tool)
      rw [insertAll, List.foldl_cons, ← insertAll, ih, hcontains, overwritten_insert, repeats_cons]
      by_cases hthere : catalog.contains tool.name = true
      · simp [hthere]
      · simp [hthere]

theorem Coherent.names_insertAll_eq (h : catalog.Coherent) (tools : List Tool) :
    (catalog.insertAll tools).names =
      catalog.names ++ ((tools.map (·.name)).filter (· ∉ catalog.names)).eraseDups := by
  rw [h.names_insertAll tools, List.eraseDups_append, eraseDups_eq_self h.names_nodup]
  simp [List.removeAll]

theorem Coherent.map_tools_eq (h : catalog.Coherent) :
    catalog.tools.map some = catalog.names.map catalog.find? := by
  rw [names, List.map_map]
  refine List.map_congr_left fun tool htool => ?_
  exact ((h.find?_eq_some_iff tool.name tool).mpr ⟨htool, rfl⟩).symm

end Catalog

namespace Registry

open Catalog

theorem coherent_of_run {actions : List Action} {place : Nat} {member : Member}
    (hmember : (Group.run actions).members[place]? = some member) :
    member.registry.current.Coherent :=
  ((Group.sound_run actions).members place member hmember).catalog.coherent

theorem registerAll_eq_of_admits {registry : Registry} {tools : List Tool}
    (hadmits : Admits registry.policy registry.current (tools.map (·.name))) :
    registry.registerAll tools =
      (.ok tools.length, { registry with current := registry.current.insertAll tools }) := by
  unfold Registry.registerAll
  rw [(registerAll_eq_ok_iff _ _ _ _).mpr ⟨hadmits, rfl⟩]

theorem registerAll_eq_ok_iff_admits (registry : Registry) (tools : List Tool) :
    (∃ count, (registry.registerAll tools).1 = .ok count) ↔
      Admits registry.policy registry.current (tools.map (·.name)) := by
  constructor
  · rintro ⟨count, hcount⟩
    unfold Registry.registerAll at hcount
    cases hregister : registry.current.registerAll registry.policy tools with
    | error error => simp [hregister] at hcount
    | ok next => exact ((registerAll_eq_ok_iff _ _ _ _).mp hregister).1
  · intro hadmits
    exact ⟨tools.length, by rw [registerAll_eq_of_admits hadmits]⟩

theorem registerAll_eq_error_iff (registry : Registry) (tools : List Tool)
    (error : DuplicateTool) :
    (registry.registerAll tools).1 = .error error ↔
      Catalog.registerAll registry.policy registry.current tools = .error error := by
  unfold Registry.registerAll
  cases Catalog.registerAll registry.policy registry.current tools with
  | error other => simp
  | ok next => simp

theorem registerAll_eq_self_of_error {registry : Registry} {tools : List Tool}
    {error : DuplicateTool} (herror : (registry.registerAll tools).1 = .error error) :
    (registry.registerAll tools).2 = registry := by
  have hregister := (registerAll_eq_error_iff registry tools error).mp herror
  unfold Registry.registerAll
  rw [hregister]

/-- What a batch does where names that are taken are refused. -/
theorem registerAll_reject {registry : Registry} (hcoherent : registry.current.Coherent)
    (hpolicy : registry.policy = .reject) (tools : List Tool) :
    ((∃ count, (registry.registerAll tools).1 = .ok count) ↔ registry.current.Fresh tools) ∧
    (registry.current.Fresh tools →
      (registry.registerAll tools).1 = .ok tools.length ∧
      (registry.registerAll tools).2.current.tools = registry.current.tools ++ tools ∧
      (registry.registerAll tools).2.current.overwritten = registry.current.overwritten) ∧
    (∀ error, (registry.registerAll tools).1 = .error error ↔
      ∃ earlier tool later, tools = earlier ++ tool :: later ∧ registry.current.Fresh earlier ∧
        (tool.name ∈ registry.current.names ∨ tool.name ∈ earlier.map (·.name)) ∧
        error = ⟨tool.name⟩) ∧
    (∀ error, (registry.registerAll tools).1 = .error error →
      (registry.registerAll tools).2 = registry) := by
  have hadmits : Admits registry.policy registry.current (tools.map (·.name)) ↔
      registry.current.Fresh tools := by
    rw [hpolicy, hcoherent.admits_reject_iff]
  refine ⟨?_, ?_, ?_, ?_⟩
  · rw [registerAll_eq_ok_iff_admits, hadmits]
  · intro hfresh
    have hregister : Catalog.registerAll .reject registry.current tools =
        .ok (registry.current.insertAll tools) :=
      (registerAll_eq_ok_iff _ _ _ _).mpr ⟨hpolicy ▸ hadmits.mpr hfresh, rfl⟩
    rw [registerAll_eq_of_admits (hadmits.mpr hfresh)]
    exact ⟨rfl, hcoherent.tools_insertAll_of_fresh hfresh, overwritten_of_reject hregister⟩
  · intro error
    rw [registerAll_eq_error_iff, hpolicy, hcoherent.registerAll_reject_eq_error_iff]
  · intro error herror
    exact registerAll_eq_self_of_error herror

/-- What a batch does where names that are taken are overwritten. -/
theorem registerAll_overwrite {registry : Registry} (hcoherent : registry.current.Coherent)
    (hpolicy : registry.policy = .overwrite) (tools : List Tool) :
    (registry.registerAll tools).1 = .ok tools.length ∧
    (∀ name, (registry.registerAll tools).2.find? name =
      (tools.findRev? fun tool => tool.name == name).or (registry.find? name)) ∧
    (registry.registerAll tools).2.current.tools.map some =
      (registry.registerAll tools).2.current.names.map (registry.registerAll tools).2.find? ∧
    (registry.registerAll tools).2.current.names = registry.current.names ++
      ((tools.map (·.name)).filter (· ∉ registry.current.names)).eraseDups ∧
    (registry.registerAll tools).2.current.overwritten = registry.current.overwritten ++
      repeats (fun name => decide (name ∈ registry.current.names)) tools := by
  have hadmits : Admits registry.policy registry.current (tools.map (·.name)) := by
    intro hreject
    rw [hpolicy] at hreject
    cases hreject
  rw [registerAll_eq_of_admits hadmits]
  refine ⟨rfl, hcoherent.find?_insertAll tools, ?_, hcoherent.names_insertAll_eq tools, ?_⟩
  · exact (hcoherent.insertAll tools).map_tools_eq
  · rw [← hcoherent.contains_eq]
    exact overwritten_insertAll_eq registry.current tools

/-- A batch of tools is registered as a whole. Where names that are taken are refused, it is
registered if its names are new and different, and then follows the tools that are there; else the
answer is the first name that is taken or occurred before it, and nothing changes. Where they are
overwritten, it is always registered: each name has the tool given last, names that are there keep
their places, new ones follow in the order of first occurrence, and a tool whose name was taken or
occurred before it is recorded. Catalogs that were handed out stay as they are. -/
theorem run_registerAll (actions : List Action) {place : Nat} {member : Member}
    (hmember : (Group.run actions).members[place]? = some member) (tools : List Tool) :
    ∃ answer next, member.registry.registerAll tools = (answer, next) ∧
      (member.registry.policy = .reject →
        ((∃ count, answer = .ok count) ↔ member.registry.current.Fresh tools) ∧
        (member.registry.current.Fresh tools →
          answer = .ok tools.length ∧
          next.current.tools = member.registry.current.tools ++ tools ∧
          next.current.overwritten = member.registry.current.overwritten) ∧
        (∀ error, answer = .error error ↔
          ∃ earlier tool later, tools = earlier ++ tool :: later ∧
            member.registry.current.Fresh earlier ∧
            (tool.name ∈ member.registry.current.names ∨ tool.name ∈ earlier.map (·.name)) ∧
            error = ⟨tool.name⟩) ∧
        (∀ error, answer = .error error → next = member.registry)) ∧
      (member.registry.policy = .overwrite →
        answer = .ok tools.length ∧
        (∀ name, next.find? name =
          (tools.findRev? fun tool => tool.name == name).or (member.registry.find? name)) ∧
        next.current.tools.map some = next.current.names.map next.find? ∧
        next.current.names = member.registry.current.names ++
          ((tools.map (·.name)).filter (· ∉ member.registry.current.names)).eraseDups ∧
        next.current.overwritten = member.registry.current.overwritten ++
          repeats (fun name => decide (name ∈ member.registry.current.names)) tools) ∧
      ((Group.run actions).perform (.registerAll place tools)).members[place]? =
        some { member with registry := next } ∧
      ((Group.run actions).perform (.registerAll place tools)).snapshots =
        (Group.run actions).snapshots := by
  have hcoherent := coherent_of_run hmember
  refine ⟨_, _, rfl, ?_, ?_, ?_, rfl⟩
  · intro hpolicy
    exact registerAll_reject hcoherent hpolicy tools
  · intro hpolicy
    exact registerAll_overwrite hcoherent hpolicy tools
  · rw [Group.perform, Group.update, List.getElem?_modify_eq, hmember]
    rfl

/-- A tool given twice more to a registry that has it is recorded twice, and one that refuses
names that are taken answers with the name. -/
theorem run_registerAll_repeated :
    (∃ registry : Registry,
      registry.current.overwritten = ["print", "print"] ∧
      registry.current.names = ["print"] ∧
      (Group.run [.create .overwrite, .register 0 Command.sampleTool, .all 0,
        .registerAll 0 [Command.sampleTool, Command.sampleTool]]).members[0]? =
        some { registry := registry }) ∧
    (Registry.registerAll {} [Command.sampleTool, Command.sampleTool]).1 =
      .error ⟨"print"⟩ := by
  constructor
  · have hmember : (Group.run [.create .overwrite, .register 0 Command.sampleTool,
        .all 0]).members[0]? =
        some
          { registry :=
              { policy := .overwrite
                current := { tools := [Command.sampleTool], index := [("print", 0)] } } } := by
      rfl
    obtain ⟨answer, next, -, -, hoverwrite, hnext, -⟩ :=
      run_registerAll _ hmember [Command.sampleTool, Command.sampleTool]
    obtain ⟨-, -, -, hnames, hoverwritten⟩ := hoverwrite rfl
    exact ⟨next, hoverwritten, hnames, hnext⟩
  · have hmember : (Group.run [.create .reject]).members[0]? = some { registry := {} } := rfl
    obtain ⟨answer, next, hregister, hreject, -⟩ :=
      run_registerAll _ hmember [Command.sampleTool, Command.sampleTool]
    obtain ⟨-, -, hrefused, -⟩ := hreject rfl
    rw [hregister]
    refine (hrefused _).mpr ⟨[Command.sampleTool], Command.sampleTool, [], rfl, ⟨?_, ?_⟩, ?_, rfl⟩
    · exact List.nodup_singleton _
    · intro tool _
      exact List.not_mem_nil
    · exact .inr (List.mem_singleton_self _)

end Registry

end Toolbench
