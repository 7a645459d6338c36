import Toolbench.Proofs.Invocation.Command
import Toolbench.Proofs.Registry.Catalog

/-!
# Registries that share catalogs

Registries take tools in and are cleared, and they hand out catalogs that may be put into any
of them. Whatever they do, the index of a catalog has each tool at its place and what was
overwritten is still there; a registry that refuses names that are taken overwrites nothing.
-/

namespace Toolbench

namespace Catalog

/-- What every operation keeps: a coherent index, and no trace of a name that is gone. -/
structure Sound (catalog : Catalog) : Prop where
  coherent : catalog.Coherent
  overwritten_named : ∀ name ∈ catalog.overwritten, name ∈ catalog.names

variable {catalog next : Catalog} {policy : DuplicatePolicy} {tools : List Tool}

theorem sound_empty : Sound empty where
  coherent := coherent_empty
  overwritten_named := by
    intro name hname
    cases hname

theorem overwritten_insert (catalog : Catalog) (tool : Tool) :
    (catalog.insert tool).overwritten =
      if catalog.contains tool.name then catalog.overwritten ++ [tool.name]
      else catalog.overwritten := by
  unfold insert contains
  cases catalog.index.lookup tool.name with
  | some position => rfl
  | none => rfl

theorem Sound.insert (h : catalog.Sound) (tool : Tool) : (catalog.insert tool).Sound where
  coherent := h.coherent.insert tool
  overwritten_named := by
    intro name hname
    rw [overwritten_insert] at hname
    rw [h.coherent.names_insert tool]
    by_cases hthere : catalog.contains tool.name = true
    · rw [if_pos hthere] at hname ⊢
      rcases List.mem_append.mp hname with hold | hnew
      · exact h.overwritten_named name hold
      · rw [List.mem_singleton.mp hnew]
        exact (h.coherent.contains_iff tool.name).mp hthere
    · rw [if_neg hthere] at hname ⊢
      exact List.mem_append_left _ (h.overwritten_named name hname)

theorem Sound.insertAll (h : catalog.Sound) (tools : List Tool) :
    (catalog.insertAll tools).Sound := by
  induction tools generalizing catalog with
  | nil => exact h
  | cons tool rest ih => exact ih (h.insert tool)

theorem Sound.registerAll (h : catalog.Sound)
    (hregister : registerAll policy catalog tools = .ok next) : next.Sound := by
  obtain ⟨-, rfl⟩ := (registerAll_eq_ok_iff policy catalog tools next).mp hregister
  exact h.insertAll tools

theorem overwritten_of_reject (hregister : registerAll .reject catalog tools = .ok next) :
    next.overwritten = catalog.overwritten := by
  obtain ⟨hadmits, rfl⟩ := (registerAll_eq_ok_iff .reject catalog tools next).mp hregister
  obtain ⟨hdistinct, hfresh⟩ := hadmits rfl
  have hnone : (tools.map (·.name)).filter catalog.contains = [] := by
    refine List.filter_eq_nil_iff.mpr fun name hname => ?_
    simp [hfresh name hname]
  rw [overwritten_insertAll catalog hdistinct, hnone, List.append_nil]

end Catalog

namespace Registry

/-- A batch leaves the registry as it is, or puts all of its tools into the catalog. -/
theorem registerAll_cases (registry : Registry) (tools : List Tool) :
    (registry.registerAll tools).2 = registry ∨
      ∃ next, Catalog.registerAll registry.policy registry.current tools = .ok next ∧
        (registry.registerAll tools).2 = { registry with current := next } := by
  unfold registerAll
  cases hregister : Catalog.registerAll registry.policy registry.current tools with
  | error error => exact .inl rfl
  | ok next => exact .inr ⟨next, rfl, rfl⟩

/-! ## What registries do -/

/-- A registry, and whether it was ever given a catalog of another one. -/
structure Member where
  registry : Registry
  received : Bool := false

/-- A catalog that was handed out, with the place of the registry that it is of. -/
structure Snapshot where
  origin : Nat
  catalog : Catalog

/-- Registries, and the catalogs that they handed out. -/
structure Group where
  members : List Member := []
  snapshots : List Snapshot := []

/-- What is done with the registries of a group, which are named by their places. -/
inductive Action where
  | create (policy : DuplicatePolicy)
  | register (place : Nat) (tool : Tool)
  | registerAll (place : Nat) (tools : List Tool)
  | clear (place : Nat)
  /-- The catalog of the moment is handed out. -/
  | all (place : Nat)
  /-- A catalog that was handed out takes the place of the current one. -/
  | replace (place snapshot : Nat)

namespace Group

/-- The group with one member changed. -/
def update (group : Group) (place : Nat) (change : Member → Member) : Group :=
  { group with members := group.members.modify place change }

/-- The group after the registry of a place handed out its catalog. -/
def handOut (group : Group) (place : Nat) : Group :=
  match group.members[place]? with
  | some member => { group with snapshots := group.snapshots ++ [⟨place, member.registry.current⟩] }
  | none => group

/-- The group after a catalog that was handed out was put into the registry of a place. -/
def putIn (group : Group) (place snapshot : Nat) : Group :=
  match group.snapshots[snapshot]? with
  | some snapshot =>
      group.update place fun member =>
        { registry := member.registry.replace snapshot.catalog
          received := member.received || snapshot.origin != place }
  | none => group

/-- The group after an action; one on what is not there changes nothing. -/
def perform (group : Group) : Action → Group
  | .create policy => { group with members := group.members ++ [{ registry := { policy } }] }
  | .register place tool =>
      group.update place fun member =>
        { member with registry := (member.registry.register tool).2 }
  | .registerAll place tools =>
      group.update place fun member =>
        { member with registry := (member.registry.registerAll tools).2 }
  | .clear place =>
      group.update place fun member => { member with registry := member.registry.clear }
  | .all place => group.handOut place
  | .replace place snapshot => group.putIn place snapshot

/-- The group after actions, one after the other, beginning with no registry at all. -/
def run (actions : List Action) : Group :=
  actions.foldl perform {}

end Group

/-! ## What they keep -/

/-- A member that refuses names that are taken, and holds nothing of another registry. -/
def Member.Strict (member : Member) : Prop :=
  member.registry.policy = .reject ∧ member.received = false

structure Member.Sound (member : Member) : Prop where
  catalog : member.registry.current.Sound
  overwritten : member.Strict → member.registry.current.overwritten = []

theorem Member.Sound.registerAll {member : Member} (h : member.Sound) (tools : List Tool) :
    Member.Sound { member with registry := (member.registry.registerAll tools).2 } := by
  rcases member.registry.registerAll_cases tools with hsame | ⟨next, hregister, hnext⟩
  · rw [hsame]
    exact h
  · rw [hnext]
    refine ⟨h.catalog.registerAll hregister, fun hstrict => ?_⟩
    have hpolicy : member.registry.policy = .reject := hstrict.1
    rw [hpolicy] at hregister
    have hkept : next.overwritten = member.registry.current.overwritten :=
      Catalog.overwritten_of_reject hregister
    exact hkept.trans (h.overwritten hstrict)

namespace Group

/-- Every catalog is sound, and none that a strict member handed out was overwritten in. -/
structure Sound (group : Group) : Prop where
  members : ∀ (place : Nat) (member : Member), group.members[place]? = some member → member.Sound
  snapshots : ∀ snapshot ∈ group.snapshots, snapshot.catalog.Sound ∧
    ∃ member, group.members[snapshot.origin]? = some member ∧
      (member.Strict → snapshot.catalog.overwritten = [])

variable {group : Group}

theorem sound_empty : Sound {} where
  members := by
    intro place member hmember
    cases hmember
  snapshots := by
    intro snapshot hsnapshot
    cases hsnapshot

theorem Sound.update (h : group.Sound) {place : Nat} {change : Member → Member}
    (hsound : ∀ member, group.members[place]? = some member → (change member).Sound)
    (hstrict : ∀ member, (change member).Strict → member.Strict) :
    (group.update place change).Sound where
  members := by
    intro other member hmember
    rw [Group.update, List.getElem?_modify, Option.map_eq_map, Option.map_eq_some_iff] at hmember
    obtain ⟨before, hbefore, rfl⟩ := hmember
    by_cases hplace : place = other
    · subst hplace
      rw [if_pos rfl]
      exact hsound before hbefore
    · rw [if_neg hplace]
      exact h.members other before hbefore
  snapshots := by
    intro snapshot hsnapshot
    obtain ⟨hcatalog, member, hmember, hclean⟩ := h.snapshots snapshot hsnapshot
    have hafter : (group.update place change).members[snapshot.origin]? =
        some (if place = snapshot.origin then change member else member) := by
      rw [Group.update, List.getElem?_modify, hmember]
      rfl
    refine ⟨hcatalog, _, hafter, fun hkept => hclean ?_⟩
    split at hkept
    · exact hstrict member hkept
    · exact hkept

theorem Sound.create (h : group.Sound) (policy : DuplicatePolicy) :
    (group.perform (.create policy)).Sound where
  members := by
    intro place member hmember
    rcases List.mem_append.mp (List.mem_of_getElem? hmember) with hold | hnew
    · obtain ⟨before, hbefore⟩ := List.mem_iff_getElem?.mp hold
      exact h.members before member hbefore
    · rw [List.mem_singleton.mp hnew]
      exact ⟨Catalog.sound_empty, fun _ => rfl⟩
  snapshots := by
    intro snapshot hsnapshot
    obtain ⟨hcatalog, member, hmember, hclean⟩ := h.snapshots snapshot hsnapshot
    have hbound := (List.getElem?_eq_some_iff.mp hmember).1
    refine ⟨hcatalog, member, ?_, hclean⟩
    rw [perform, List.getElem?_append_left hbound, hmember]

theorem Sound.handOut (h : group.Sound) (place : Nat) : (group.handOut place).Sound := by
  unfold Group.handOut
  cases hmember : group.members[place]? with
  | none => exact h
  | some member =>
      refine ⟨h.members, fun snapshot hsnapshot => ?_⟩
      have hsound := h.members place member hmember
      rcases List.mem_append.mp hsnapshot with hold | hnew
      · exact h.snapshots snapshot hold
      · rw [List.mem_singleton.mp hnew]
        exact ⟨hsound.catalog, member, hmember, hsound.overwritten⟩

theorem Sound.putIn (h : group.Sound) (place snapshot : Nat) :
    (group.putIn place snapshot).Sound := by
  unfold Group.putIn
  cases hsnapshot : group.snapshots[snapshot]? with
  | none => exact h
  | some snapshot =>
      obtain ⟨hcatalog, origin, horigin, hclean⟩ :=
        h.snapshots snapshot (List.mem_of_getElem? hsnapshot)
      -- a member that stays strict takes back a catalog of its own
      have hown : ∀ member : Member,
          Member.Strict
            { registry := member.registry.replace snapshot.catalog
              received := member.received || snapshot.origin != place } →
            member.Strict ∧ snapshot.origin = place := by
        rintro member ⟨hpolicy, hreceived⟩
        have hboth : member.received = false ∧ snapshot.origin = place := by
          simpa using hreceived
        exact ⟨⟨hpolicy, hboth.1⟩, hboth.2⟩
      refine h.update (fun member hmember => ⟨hcatalog, fun hstrict => ?_⟩) fun member hstrict =>
        (hown member hstrict).1
      obtain ⟨hbefore, rfl⟩ := hown member hstrict
      obtain rfl := Option.some.inj (horigin.symm.trans hmember)
      exact hclean hbefore

theorem Sound.registerAll (h : group.Sound) (place : Nat) (tools : List Tool) :
    (group.perform (.registerAll place tools)).Sound := by
  refine h.update (fun member hmember => ?_) fun member hstrict => ?_
  · exact (h.members place member hmember).registerAll tools
  · rcases member.registry.registerAll_cases tools with hsame | ⟨next, -, hnext⟩
    · simpa [Member.Strict, hsame] using hstrict
    · simpa [Member.Strict, hnext] using hstrict

/-- Every action keeps the catalogs of a group sound. -/
theorem Sound.perform (h : group.Sound) (action : Action) : (group.perform action).Sound := by
  cases action with
  | create policy => exact h.create policy
  | register place tool => exact h.registerAll place [tool]
  | registerAll place tools => exact h.registerAll place tools
  | clear place =>
      refine h.update (fun member _ => ?_) fun member hstrict => hstrict
      exact ⟨Catalog.sound_empty, fun _ => rfl⟩
  | all place => exact h.handOut place
  | replace place snapshot => exact h.putIn place snapshot

theorem Sound.foldl (h : group.Sound) (actions : List Action) :
    (actions.foldl Group.perform group).Sound := by
  induction actions generalizing group with
  | nil => exact h
  | cons action rest ih => exact ih (h.perform action)

theorem sound_run (actions : List Action) : (run actions).Sound :=
  sound_empty.foldl actions

end Group

/-- After any actions, the tools of each registry have different names, its index has these
names with the places of their tools and no others, it finds by name the one tool of that name,
and the names that were overwritten are names of it. If it refuses names that are taken and
was given no catalog of another registry, there are none of these. -/
theorem run_indexed (actions : List Action) {place : Nat} {member : Member}
    (hmember : (Group.run actions).members[place]? = some member) :
    member.registry.current.names.Nodup ∧
    (∀ name position, member.registry.current.index.lookup name = some position ↔
      ∃ tool, member.registry.current.tools[position]? = some tool ∧ tool.name = name) ∧
    (∀ name tool, member.registry.find? name = some tool ↔
      tool ∈ member.registry.current.tools ∧ tool.name = name) ∧
    (∀ name, member.registry.find? name = none ↔ name ∉ member.registry.current.names) ∧
    (∀ name ∈ member.registry.current.overwritten, name ∈ member.registry.current.names) ∧
    (member.registry.policy = .reject → member.received = false →
      member.registry.current.overwritten = []) := by
  have hsound := (Group.sound_run actions).members place member hmember
  have hcoherent := hsound.catalog.coherent
  have hfind := hcoherent.find?_eq_some_iff
  refine ⟨hcoherent.names_nodup, ?_, hfind, ?_, hsound.catalog.overwritten_named, ?_⟩
  · intro name position
    rw [hcoherent.lookup_eq_some_iff, Catalog.names, List.getElem?_map, Option.map_eq_some_iff]
  · intro name
    rw [Option.eq_none_iff_forall_ne_some]
    constructor
    · intro hnone hname
      obtain ⟨tool, htool, rfl⟩ := List.mem_map.mp hname
      exact hnone tool ((hfind _ tool).mpr ⟨htool, rfl⟩)
    · intro hname tool hfound
      obtain ⟨htool, rfl⟩ := (hfind name tool).mp hfound
      exact hname (List.mem_map_of_mem htool)
  · intro hpolicy hreceived
    exact hsound.overwritten ⟨hpolicy, hreceived⟩

/-- A tool that was registered twice is handed on by a registry that would have refused it. -/
theorem run_indexed_received :
    ∃ member : Member,
      (Group.run [.create .reject, .create .overwrite, .register 1 Command.sampleTool,
        .register 1 Command.sampleTool, .all 1, .replace 0 0, .clear 1]).members[0]? =
        some member ∧
      member.registry.policy = .reject ∧ member.received = true ∧
      member.registry.find? "print" = some Command.sampleTool ∧
      member.registry.current.overwritten = ["print"] ∧
      "print" ∈ member.registry.current.names := by
  have hmember : (Group.run [.create .reject, .create .overwrite, .register 1 Command.sampleTool,
      .register 1 Command.sampleTool, .all 1, .replace 0 0, .clear 1]).members[0]? =
      some
        { registry :=
            { policy := .reject
              current := { tools := [Command.sampleTool], index := [("print", 0)],
                           overwritten := ["print"] } }
          received := true } := by
    rfl
  obtain ⟨-, -, hfind, -, hnamed, -⟩ := run_indexed _ hmember
  refine ⟨_, hmember, rfl, rfl, ?_, rfl, ?_⟩
  · exact (hfind "print" Command.sampleTool).mpr ⟨List.mem_singleton_self _, rfl⟩
  · exact hnamed "print" (List.mem_singleton_self _)

end Registry

end Toolbench
