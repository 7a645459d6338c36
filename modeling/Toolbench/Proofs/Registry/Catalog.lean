import Mathlib.Data.List.Nodup
import Toolbench.Registry.Basic

/-!
# Catalogs that grow by insertions

The index of such a catalog finds each name at its one place.  Inserting tools in order keeps
the names that are there in their places and puts new ones behind them; each name then stands
for the tool that was inserted last under it.
-/

namespace Toolbench

namespace Catalog

/-- The index has each name at the position of its tool, so no two tools share a name. -/
structure Coherent (catalog : Catalog) : Prop where
  lookup_eq_some_iff : ∀ name position,
    catalog.index.lookup name = some position ↔ catalog.names[position]? = some name

variable {catalog : Catalog}

theorem coherent_empty : Coherent empty where
  lookup_eq_some_iff := by
    intro name position
    simp [empty, names]

theorem Coherent.contains_iff (h : catalog.Coherent) (name : String) :
    catalog.contains name = true ↔ name ∈ catalog.names := by
  rw [contains, Option.isSome_iff_exists, List.mem_iff_getElem?]
  exact exists_congr fun position => h.lookup_eq_some_iff name position

theorem Coherent.names_nodup (h : catalog.Coherent) : catalog.names.Nodup := by
  rw [List.nodup_iff_getElem?_ne_getElem?]
  intro earlier later hlt hbound heq
  have hlater : catalog.names[later]? = some catalog.names[later] :=
    List.getElem?_eq_getElem hbound
  have hfound := (h.lookup_eq_some_iff _ later).mpr hlater
  have hearlier := (h.lookup_eq_some_iff _ earlier).mpr (heq.trans hlater)
  rw [hfound, Option.some.injEq] at hearlier
  omega

/-! ## One insertion -/

theorem contains_insert (catalog : Catalog) (tool : Tool) (name : String) :
    (catalog.insert tool).contains name = (catalog.contains name || name == tool.name) := by
  unfold insert
  cases hlookup : catalog.index.lookup tool.name with
  | some position =>
      by_cases hname : name = tool.name
      · simp [contains, hname, hlookup]
      · simp [contains, hname]
  | none =>
      by_cases hname : name = tool.name
      · simp [contains, hname]
      · have hbeq : (name == tool.name) = false := by
          simpa using hname
        simp [contains, List.lookup_cons, hbeq]

/-- Under a name that is there, only the definition changes. -/
theorem Coherent.names_insert (h : catalog.Coherent) (tool : Tool) :
    (catalog.insert tool).names =
      if catalog.contains tool.name then catalog.names else catalog.names ++ [tool.name] := by
  unfold insert
  cases hlookup : catalog.index.lookup tool.name with
  | some position =>
      have hplace := (h.lookup_eq_some_iff _ _).mp hlookup
      obtain ⟨hbound, hname⟩ := List.getElem?_eq_some_iff.mp hplace
      have hset : catalog.names.set position tool.name = catalog.names := by
        rw [← hname, List.set_getElem_self]
      simp only [names] at hset
      simp [contains, hlookup, names, List.map_set, hset]
  | none =>
      simp [contains, hlookup, names]

theorem Coherent.insert (h : catalog.Coherent) (tool : Tool) :
    (catalog.insert tool).Coherent where
  lookup_eq_some_iff := by
    intro name position
    rw [h.names_insert tool]
    unfold Catalog.insert
    cases hlookup : catalog.index.lookup tool.name with
    | some place =>
        simpa [contains, hlookup] using h.lookup_eq_some_iff name position
    | none =>
        -- a name that the index lacks is at no place, so the new entry hides no other
        have hfresh : ∀ place : Nat, catalog.names[place]? ≠ some tool.name := by
          intro place hplace
          rw [(h.lookup_eq_some_iff _ _).mpr hplace] at hlookup
          cases hlookup
        have hlength : catalog.names.length = catalog.tools.length := by
          simp [names]
        by_cases hname : name = tool.name
        · subst hname
          have hplace := hfresh position
          simp only [contains, hlookup, List.lookup_cons_self, Option.isSome_none,
            Bool.false_eq_true, if_false, Option.some.injEq, List.getElem?_append, hlength]
          split
          · simp only [hplace, iff_false]
            omega
          · rw [List.getElem?_singleton]
            by_cases hend : position - catalog.tools.length = 0
            · simp only [hend, if_true, iff_true]
              omega
            · simp only [hend, if_false, reduceCtorEq, iff_false]
              omega
        · have hbeq : (name == tool.name) = false := by
            simpa using hname
          have hother : tool.name ≠ name := fun heq => hname heq.symm
          simp only [contains, hlookup, List.lookup_cons, hbeq, Option.isSome_none,
            Bool.false_eq_true, if_false, h.lookup_eq_some_iff, List.getElem?_append]
          split
          · rfl
          · rename_i hbound
            rw [List.getElem?_eq_none (by omega), List.getElem?_singleton]
            split <;> simp [hother]

/-- An insertion changes what is found under one name. -/
theorem Coherent.find?_insert (h : catalog.Coherent) (tool : Tool) (name : String) :
    (catalog.insert tool).find? name =
      if name = tool.name then some tool else catalog.find? name := by
  unfold Catalog.insert find?
  cases hlookup : catalog.index.lookup tool.name with
  | some position =>
      have hplace := (h.lookup_eq_some_iff _ _).mp hlookup
      have hbound : position < catalog.tools.length := by
        simpa [names] using (List.getElem?_eq_some_iff.mp hplace).1
      by_cases hname : name = tool.name
      · simp [hname, hlookup, hbound]
      · cases hother : catalog.index.lookup name with
        | none => simp [hname]
        | some place =>
            have hne : position ≠ place := by
              rintro rfl
              rw [(h.lookup_eq_some_iff _ _).mp hother, Option.some.injEq] at hplace
              exact hname hplace
            simp [hname, List.getElem?_set_ne hne]
  | none =>
      by_cases hname : name = tool.name
      · simp [hname]
      · have hbeq : (name == tool.name) = false := by
          simpa using hname
        cases hother : catalog.index.lookup name with
        | none => simp [hname, List.lookup_cons, hbeq, hother]
        | some place =>
            have hbound : place < catalog.tools.length := by
              have hplace := (h.lookup_eq_some_iff _ _).mp hother
              simpa [names] using (List.getElem?_eq_some_iff.mp hplace).1
            simp [hname, List.lookup_cons, hbeq, hother, List.getElem?_append_left hbound]

theorem Coherent.find?_eq_some_iff (h : catalog.Coherent) (name : String) (tool : Tool) :
    catalog.find? name = some tool ↔ tool ∈ catalog.tools ∧ tool.name = name := by
  rw [find?, Option.bind_eq_some_iff]
  constructor
  · rintro ⟨position, hlookup, htool⟩
    have hplace := (h.lookup_eq_some_iff _ _).mp hlookup
    rw [names, List.getElem?_map, htool] at hplace
    exact ⟨List.mem_of_getElem? htool, by simpa using hplace⟩
  · rintro ⟨hmem, rfl⟩
    obtain ⟨position, hposition⟩ := List.mem_iff_getElem?.mp hmem
    have hplace : catalog.names[position]? = some tool.name := by
      simp [names, hposition]
    exact ⟨position, (h.lookup_eq_some_iff _ _).mpr hplace, hposition⟩

/-- A tool is one more in the catalog, or one more that took over a name. -/
theorem size_add_overwritten_insert (catalog : Catalog) (tool : Tool) :
    (catalog.insert tool).size + (catalog.insert tool).overwritten.length =
      catalog.size + catalog.overwritten.length + 1 := by
  unfold insert size
  cases catalog.index.lookup tool.name with
  | some position =>
      simp only [List.length_set, List.length_append, List.length_singleton]
      omega
  | none =>
      simp only [List.length_append, List.length_singleton]
      omega

/-! ## Many insertions -/

/-- The catalog with tools inserted one after the other. -/
def insertAll (catalog : Catalog) (tools : List Tool) : Catalog :=
  tools.foldl Catalog.insert catalog

theorem insertAll_append (catalog : Catalog) (earlier later : List Tool) :
    catalog.insertAll (earlier ++ later) = (catalog.insertAll earlier).insertAll later :=
  List.foldl_append

theorem Coherent.insertAll (h : catalog.Coherent) (tools : List Tool) :
    (catalog.insertAll tools).Coherent := by
  induction tools generalizing catalog with
  | nil => exact h
  | cons tool rest ih => exact ih (h.insert tool)

theorem contains_insertAll (catalog : Catalog) (tools : List Tool) (name : String) :
    (catalog.insertAll tools).contains name = true ↔
      catalog.contains name = true ∨ name ∈ tools.map (·.name) := by
  induction tools generalizing catalog with
  | nil =>
      simp [insertAll]
  | cons tool rest ih =>
      have hrest := ih (catalog.insert tool)
      rw [contains_insert] at hrest
      simpa [insertAll, or_assoc] using hrest

theorem eraseDups_eq_self {names : List String} (hnodup : names.Nodup) :
    names.eraseDups = names := by
  induction names with
  | nil =>
      rfl
  | cons name rest ih =>
      obtain ⟨hname, hrest⟩ := List.nodup_cons.mp hnodup
      have hkeep : rest.filter (fun other => !other == name) = rest := by
        refine List.filter_eq_self.mpr fun other hother => ?_
        have hne : other ≠ name := fun heq => hname (heq ▸ hother)
        simpa using hne
      rw [List.eraseDups_cons, hkeep, ih hrest]

/-- Names keep their places, and new ones follow in the order in which they first occur. -/
theorem Coherent.names_insertAll (h : catalog.Coherent) (tools : List Tool) :
    (catalog.insertAll tools).names = (catalog.names ++ tools.map (·.name)).eraseDups := by
  induction tools generalizing catalog with
  | nil =>
      simpa [Catalog.insertAll] using (eraseDups_eq_self h.names_nodup).symm
  | cons tool rest ih =>
      have hrest := ih (h.insert tool)
      rw [h.names_insert tool] at hrest
      rw [Catalog.insertAll, List.foldl_cons, ← Catalog.insertAll, hrest, List.map_cons]
      split
      · rename_i hthere
        have hmem := (h.contains_iff tool.name).mp hthere
        rw [List.eraseDups_append, List.eraseDups_append]
        simp [List.removeAll, hmem]
      · rw [List.append_assoc, List.singleton_append]

/-- A name stands for the tool that was inserted last under it. -/
theorem Coherent.find?_insertAll (h : catalog.Coherent) (tools : List Tool) (name : String) :
    (catalog.insertAll tools).find? name =
      (tools.findRev? fun tool => tool.name == name).or (catalog.find? name) := by
  induction tools generalizing catalog with
  | nil =>
      simp [Catalog.insertAll]
  | cons tool rest ih =>
      have hrest := ih (h.insert tool)
      rw [h.find?_insert tool name] at hrest
      rw [Catalog.insertAll, List.foldl_cons, ← Catalog.insertAll, hrest]
      simp only [List.findRev?_eq_find?_reverse, List.reverse_cons, List.find?_append]
      by_cases hname : name = tool.name
      · simp [hname]
      · have hbeq : (tool.name == name) = false := by
          simpa using fun heq => hname heq.symm
        simp [hname, hbeq]

/-- Each name once, in order of first occurrence, with the tool that has it last. -/
def latest (tools : List Tool) : List Tool :=
  (tools.map (·.name)).eraseDups.filterMap fun name => tools.findRev? fun tool => tool.name == name

theorem Coherent.tools_eq (h : catalog.Coherent) :
    catalog.tools = catalog.names.filterMap catalog.find? := by
  have hfound : ∀ tool ∈ catalog.tools, catalog.find? tool.name = some tool := by
    intro tool htool
    exact (h.find?_eq_some_iff tool.name tool).mpr ⟨htool, rfl⟩
  rw [names, List.filterMap_map]
  exact ((List.filterMap_congr hfound).trans List.filterMap_some).symm

theorem Coherent.find?_eq_findRev? (h : catalog.Coherent) (name : String) :
    catalog.find? name = catalog.tools.findRev? fun tool => tool.name == name := by
  rw [List.findRev?_eq_find?_reverse]
  cases hlast : catalog.tools.reverse.find? fun tool => tool.name == name with
  | some tool =>
      have hmem := List.mem_reverse.mp (List.mem_of_find?_eq_some hlast)
      have hname := List.find?_some hlast
      exact (h.find?_eq_some_iff name tool).mpr ⟨hmem, by simpa using hname⟩
  | none =>
      rw [Option.eq_none_iff_forall_not_mem]
      intro tool htool
      obtain ⟨hmem, hname⟩ := (h.find?_eq_some_iff name tool).mp htool
      have hother := List.find?_eq_none.mp hlast tool (List.mem_reverse.mpr hmem)
      simp [hname] at hother

/-- Inserting tools amounts to keeping the last one of each name. -/
theorem Coherent.tools_insertAll (h : catalog.Coherent) (tools : List Tool) :
    (catalog.insertAll tools).tools = latest (catalog.tools ++ tools) := by
  rw [(h.insertAll tools).tools_eq, h.names_insertAll tools, latest, List.map_append]
  refine List.filterMap_congr fun name _ => ?_
  rw [h.find?_insertAll tools name, h.find?_eq_findRev? name]
  simp only [List.findRev?_eq_find?_reverse, List.reverse_append, List.find?_append]

/-- Of tools with different names, every one is kept. -/
theorem latest_eq_self {tools : List Tool} (hdistinct : (tools.map (·.name)).Nodup) :
    latest tools = tools := by
  have hlast : ∀ tool ∈ tools,
      (tools.findRev? fun other => other.name == tool.name) = some tool := by
    intro tool htool
    rw [List.findRev?_eq_find?_reverse]
    cases hfound : tools.reverse.find? fun other => other.name == tool.name with
    | none =>
        have hself := List.find?_eq_none.mp hfound tool (List.mem_reverse.mpr htool)
        simp at hself
    | some other =>
        have hother := List.mem_reverse.mp (List.mem_of_find?_eq_some hfound)
        have hname : other.name = tool.name := by
          simpa using List.find?_some hfound
        rw [List.inj_on_of_nodup_map hdistinct hother htool hname]
  rw [latest, eraseDups_eq_self hdistinct, List.filterMap_map]
  exact (List.filterMap_congr hlast).trans List.filterMap_some

/-- The names that tools took over, each time that one did. -/
theorem overwritten_insertAll (catalog : Catalog) {tools : List Tool}
    (hdistinct : (tools.map (·.name)).Nodup) :
    (catalog.insertAll tools).overwritten =
      catalog.overwritten ++ (tools.map (·.name)).filter catalog.contains := by
  induction tools generalizing catalog with
  | nil =>
      simp [insertAll]
  | cons tool rest ih =>
      rw [List.map_cons] at hdistinct
      obtain ⟨hname, hrest⟩ := List.nodup_cons.mp hdistinct
      have hsame : (rest.map (·.name)).filter (catalog.insert tool).contains =
          (rest.map (·.name)).filter catalog.contains := by
        refine List.filter_congr fun name hmem => ?_
        have hne : name ≠ tool.name := fun heq => hname (heq ▸ hmem)
        have hbeq : (name == tool.name) = false := by
          simpa using hne
        rw [contains_insert, hbeq, Bool.or_false]
      rw [insertAll, List.foldl_cons, ← insertAll, ih (catalog.insert tool) hrest, hsame,
        List.map_cons, List.filter_cons]
      cases hlookup : catalog.index.lookup tool.name with
      | some position => simp [contains, Catalog.insert, hlookup]
      | none => simp [contains, Catalog.insert, hlookup]

theorem size_add_overwritten_insertAll (catalog : Catalog) (tools : List Tool) :
    (catalog.insertAll tools).size + (catalog.insertAll tools).overwritten.length =
      catalog.size + catalog.overwritten.length + tools.length := by
  induction tools generalizing catalog with
  | nil => rfl
  | cons tool rest ih =>
      have hfirst := catalog.size_add_overwritten_insert tool
      have hrest := ih (catalog.insert tool)
      rw [insertAll, List.foldl_cons, ← insertAll, hrest, hfirst, List.length_cons]
      omega

/-! ## Registering together -/

/-- What the policy asks of names that are registered together. -/
def Admits (policy : DuplicatePolicy) (catalog : Catalog) (names : List String) : Prop :=
  policy = .reject → names.Nodup ∧ ∀ name ∈ names, catalog.contains name = false

theorem admits_cons_iff (policy : DuplicatePolicy) (catalog : Catalog) (tool : Tool)
    (names : List String) :
    Admits policy catalog (tool.name :: names) ↔
      (policy = .reject → catalog.contains tool.name = false) ∧
        Admits policy (catalog.insert tool) names := by
  cases policy with
  | overwrite =>
      simp [Admits]
  | reject =>
      simp only [Admits, List.nodup_cons, List.forall_mem_cons, contains_insert,
        Bool.or_eq_false_iff, beq_eq_false_iff_ne, forall_const, forall_and]
      constructor
      · rintro ⟨⟨hname, hnodup⟩, hfresh, hrest⟩
        exact ⟨hfresh, hnodup, hrest, fun name hmem heq => hname (heq ▸ hmem)⟩
      · rintro ⟨hfresh, hnodup, hrest, hne⟩
        exact ⟨⟨fun hmem => hne _ hmem rfl, hnodup⟩, hfresh, hrest⟩

theorem registerAll_eq_ok_iff (policy : DuplicatePolicy) (catalog : Catalog) (tools : List Tool)
    (next : Catalog) :
    registerAll policy catalog tools = .ok next ↔
      Admits policy catalog (tools.map (·.name)) ∧ next = catalog.insertAll tools := by
  induction tools generalizing catalog with
  | nil =>
      have hadmits : Admits policy catalog [] := fun _ => ⟨List.nodup_nil, by simp⟩
      simp only [registerAll, List.map_nil, hadmits, insertAll, List.foldl_nil, Except.ok.injEq,
        true_and]
      exact eq_comm
  | cons tool rest ih =>
      rw [registerAll, register, List.map_cons, admits_cons_iff]
      by_cases hrefused : policy = .reject ∧ catalog.contains tool.name = true
      · simp [hrefused]
      · have hfresh : policy = .reject → catalog.contains tool.name = false := by
          intro hpolicy
          simpa using fun hthere => hrefused ⟨hpolicy, hthere⟩
        simp only [if_neg hrefused]
        rw [ih (catalog.insert tool)]
        simp only [insertAll, List.foldl_cons]
        exact ⟨fun ⟨hadmits, hnext⟩ => ⟨⟨hfresh, hadmits⟩, hnext⟩,
          fun ⟨⟨_, hadmits⟩, hnext⟩ => ⟨hadmits, hnext⟩⟩

end Catalog

end Toolbench
