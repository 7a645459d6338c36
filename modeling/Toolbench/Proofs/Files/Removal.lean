import Toolbench.Proofs.Files.Listing

/-!
# Trees without some files

A tree that lacks some files of another one, and holds what the other one holds everywhere else.
Path texts lead to the same directories in both.
-/

namespace Toolbench

namespace Files

namespace Tree

open Text (Bytes)

/-- A tree that holds nothing at some places, and what another tree holds everywhere else. -/
structure Lacks (rest tree : Tree) (places : List Place) : Prop where
  start : rest.start = tree.start
  gone : ∀ place ∈ places, rest.at? place = none
  kept : ∀ place, place ∉ places → rest.at? place = tree.at? place

section Lacks

variable {rest tree : Tree} {places : List Place}

theorem Lacks.at?_eq_file_iff (h : rest.Lacks tree places) (place : Place) (content : Bytes) :
    rest.at? place = some (.file content) ↔
      place ∉ places ∧ tree.at? place = some (.file content) := by
  by_cases hplace : place ∈ places
  · rw [h.gone place hplace]
    simp [hplace]
  · rw [h.kept place hplace]
    simp [hplace]

theorem Lacks.at?_eq_directory_iff (h : rest.Lacks tree places)
    (hfiles : ∀ place ∈ places, tree.at? place ≠ some .directory) (place : Place) :
    rest.at? place = some .directory ↔ tree.at? place = some .directory := by
  by_cases hplace : place ∈ places
  · rw [h.gone place hplace]
    simp [hfiles place hplace]
  · rw [h.kept place hplace]

theorem step_of_not_directory {tree : Tree} {place : Place}
    (hplace : tree.at? place ≠ some .directory) (name : Bytes) :
    ∃ fault, tree.step place name = .error fault := by
  unfold step
  cases hat : tree.at? place with
  | none => exact ⟨_, rfl⟩
  | some item =>
      cases item with
      | file content => exact ⟨_, rfl⟩
      | directory => exact absurd hat hplace

theorem Lacks.toOption_step (h : rest.Lacks tree places)
    (hfiles : ∀ place ∈ places, tree.at? place ≠ some .directory) (place : Place) (name : Bytes) :
    (rest.step place name).toOption = (tree.step place name).toOption := by
  have hdirectory := h.at?_eq_directory_iff hfiles place
  by_cases hplace : tree.at? place = some .directory
  · unfold step
    rw [hplace, hdirectory.mpr hplace]
  · have hrest : rest.at? place ≠ some .directory := fun hat => hplace (hdirectory.mp hat)
    obtain ⟨fault, hstep⟩ := step_of_not_directory hplace name
    obtain ⟨other, hother⟩ := step_of_not_directory hrest name
    rw [hstep, hother]
    rfl

theorem Lacks.toOption_foldlM_step (h : rest.Lacks tree places)
    (hfiles : ∀ place ∈ places, tree.at? place ≠ some .directory) (names : List Bytes)
    (start : Place) :
    (names.foldlM rest.step start).toOption = (names.foldlM tree.step start).toOption := by
  induction names generalizing start with
  | nil => rfl
  | cons name names ih =>
      have hstep := h.toOption_step hfiles start name
      rw [List.foldlM_cons, List.foldlM_cons]
      cases hrest : rest.step start name with
      | error fault =>
          cases htree : tree.step start name with
          | error other => rfl
          | ok next =>
              rw [hrest, htree] at hstep
              cases hstep
      | ok next =>
          cases htree : tree.step start name with
          | error other =>
              rw [hrest, htree] at hstep
              cases hstep
          | ok other =>
              rw [hrest, htree] at hstep
              obtain rfl : next = other := Option.some.inj hstep
              exact ih next

theorem directory?_eq_filter (tree : Tree) (path : Bytes) :
    tree.directory? path =
      (tree.placeOf path).toOption.filter fun place => tree.at? place = some .directory := by
  unfold directory?
  cases tree.placeOf path with
  | error fault => rfl
  | ok place =>
      show (if tree.at? place = some .directory then some place else none) =
        (some place).filter fun place => tree.at? place = some .directory
      rw [Option.filter_some]
      simp only [decide_eq_true_eq]

/-- Where files are gone, every directory is still found. -/
theorem Lacks.directory?_eq (h : rest.Lacks tree places)
    (hfiles : ∀ place ∈ places, tree.at? place ≠ some .directory) (path : Bytes) :
    rest.directory? path = tree.directory? path := by
  have hplace : (rest.placeOf path).toOption = (tree.placeOf path).toOption := by
    unfold placeOf
    rw [h.start]
    split
    · rfl
    · split
      · rfl
      · split
        · rfl
        · exact h.toOption_foldlM_step hfiles _ _
  rw [directory?_eq_filter, directory?_eq_filter, hplace]
  simp only [h.at?_eq_directory_iff hfiles]

end Lacks

/-! ## Files removed -/

theorem at?_of_mem {tree : Tree} {place : Place} {item : Item}
    (hentry : (place, item) ∈ tree.entries) : tree.at? place = some item := by
  unfold at?
  rw [(lookup_eq_some_iff tree.distinct place item).mpr hentry]

theorem lookup_eq_none {tree : Tree} {place : Place}
    (hentry : ∀ item, (place, item) ∉ tree.entries) : tree.entries.lookup place = none := by
  rw [Option.eq_none_iff_forall_ne_some]
  intro item hlookup
  exact hentry item ((lookup_eq_some_iff tree.distinct place item).mp hlookup)

theorem at?_eq_none {tree : Tree} {place : Place} (hstart : ¬ place <+: tree.start)
    (hbelow : ∀ entry ∈ tree.entries, ¬ place <+: entry.1) : tree.at? place = none := by
  have hlookup := lookup_eq_none fun item hentry => hbelow _ hentry (List.prefix_refl place)
  unfold at?
  rw [hlookup]
  simpa [hstart] using fun location item hentry => hbelow (location, item) hentry

theorem at?_congr {rest tree : Tree} {place : Place} (hstart : rest.start = tree.start)
    (hentry : ∀ item, (place, item) ∈ rest.entries ↔ (place, item) ∈ tree.entries)
    (hbelow : (∃ entry ∈ rest.entries, place <+: entry.1) ↔
      ∃ entry ∈ tree.entries, place <+: entry.1) : rest.at? place = tree.at? place := by
  have hlookup : rest.entries.lookup place = tree.entries.lookup place := by
    refine Option.ext fun item => ?_
    rw [lookup_eq_some_iff rest.distinct, lookup_eq_some_iff tree.distinct, hentry]
  unfold at?
  rw [hlookup]
  simp only [List.any_eq_true, List.isPrefixOf_iff_prefix, hbelow, hstart]

/-- A tree where nothing is below a file, the start least of all. -/
def Sound (tree : Tree) : Prop :=
  ∀ file ∈ tree.entries, file.2 ≠ .directory →
    ¬ file.1 <+: tree.start ∧ ∀ entry ∈ tree.entries, file.1 <+: entry.1 → entry.1 = file.1

instance (tree : Tree) : Decidable tree.Sound :=
  inferInstanceAs (Decidable (∀ file ∈ tree.entries, file.2 ≠ .directory →
    ¬ file.1 <+: tree.start ∧ ∀ entry ∈ tree.entries, file.1 <+: entry.1 → entry.1 = file.1))

section Sound

variable {tree : Tree} {place : Place} {content : Bytes}

theorem Sound.not_prefix_start (h : tree.Sound) (hfile : (place, .file content) ∈ tree.entries) :
    ¬ place <+: tree.start :=
  (h _ hfile (by simp)).1

theorem Sound.ne_nil (h : tree.Sound) (hfile : (place, .file content) ∈ tree.entries) :
    place ≠ [] := by
  rintro rfl
  exact h.not_prefix_start hfile List.nil_prefix

theorem Sound.eq_of_prefix (h : tree.Sound) (hfile : (place, .file content) ∈ tree.entries)
    {entry : Place × Item} (hentry : entry ∈ tree.entries) (hleads : place <+: entry.1) :
    entry.1 = place :=
  (h _ hfile (by simp)).2 entry hentry hleads

end Sound

theorem mem_entries_remove_iff (tree : Tree) (place location : Place) (item : Item) :
    (location, item) ∈ (tree.remove place).entries ↔
      (location = place.dropLast ∧ item = .directory) ∨
        ((location, item) ∈ tree.entries ∧ ¬ place <+: location ∧
          location ≠ place.dropLast) := by
  have hleads : place.isPrefixOf location = false ↔ ¬ place <+: location := by
    rw [← List.isPrefixOf_iff_prefix, Bool.not_eq_true]
  simp only [remove, put, others, List.mem_cons, List.mem_filter, Prod.mk.injEq,
    Bool.not_eq_true', hleads, decide_eq_true_eq, and_assoc]

theorem not_prefix_dropLast {place : Place} (hplace : place ≠ []) :
    ¬ place <+: place.dropLast := by
  intro hleads
  have hlength := hleads.length_le
  have hpositive := List.length_pos_iff.mpr hplace
  rw [List.length_dropLast] at hlength
  omega

theorem prefix_dropLast_of_ne {location place : Place} (hleads : location <+: place)
    (hne : location ≠ place) : location <+: place.dropLast := by
  obtain ⟨names, rfl⟩ := hleads
  have hnames : names ≠ [] := by
    rintro rfl
    exact hne (List.append_nil location).symm
  rw [List.dropLast_append_of_ne_nil hnames]
  exact List.prefix_append location names.dropLast

section Remove

variable {tree : Tree} {place : Place} {content : Bytes}

theorem Sound.at?_dropLast (h : tree.Sound)
    (hentry : (place, .file content) ∈ tree.entries) :
    tree.at? place.dropLast = some .directory := by
  have hup : place.dropLast <+: place := List.dropLast_prefix place
  unfold at?
  cases hlookup : tree.entries.lookup place.dropLast with
  | none =>
      have hbelow : tree.entries.any (fun entry => place.dropLast.isPrefixOf entry.1) = true :=
        List.any_eq_true.mpr ⟨_, hentry, List.isPrefixOf_iff_prefix.mpr hup⟩
      simp only [hbelow, or_true, if_true]
  | some item =>
      cases item with
      | directory => rfl
      | file held =>
          have hheld := (lookup_eq_some_iff tree.distinct _ _).mp hlookup
          have heq : place = place.dropLast := h.eq_of_prefix hheld hentry hup
          exact absurd (heq ▸ List.prefix_refl place) (not_prefix_dropLast (h.ne_nil hentry))

/-- To remove a file leaves the tree without it. -/
theorem Sound.lacks_remove (h : tree.Sound) (hfile : tree.at? place = some (.file content)) :
    (tree.remove place).Lacks tree [place] := by
  have hentry := (tree.at?_eq_file_iff place content).mp hfile
  refine ⟨rfl, ?_, ?_⟩
  · intro location hlocation
    obtain rfl := List.mem_singleton.mp hlocation
    refine at?_eq_none (h.not_prefix_start hentry) ?_
    intro entry hrest hleads
    rcases (mem_entries_remove_iff tree location entry.1 entry.2).mp hrest with
      ⟨hup, -⟩ | ⟨-, hnot, -⟩
    · exact not_prefix_dropLast (h.ne_nil hentry) (hup ▸ hleads)
    · exact hnot hleads
  · intro location hlocation
    have hne : location ≠ place := fun heq => hlocation (List.mem_singleton.mpr heq)
    by_cases hup : location = place.dropLast
    · have hmem := (mem_entries_remove_iff tree place location .directory).mpr (.inl ⟨hup, rfl⟩)
      rw [at?_of_mem hmem, hup, h.at?_dropLast hentry]
    · -- what leads to the file leads to its directory: both trees imply the same directories
      refine at?_congr rfl ?_ ?_
      · intro item
        rw [mem_entries_remove_iff]
        constructor
        · intro hmem
          rcases hmem with ⟨heq, -⟩ | ⟨hold, -, -⟩
          · exact absurd heq hup
          · exact hold
        · intro hold
          exact .inr ⟨hold, fun hleads => hne (h.eq_of_prefix hentry hold hleads), hup⟩
      · constructor
        · intro ⟨entry, hrest, hleads⟩
          rcases (mem_entries_remove_iff tree place entry.1 entry.2).mp hrest with
            ⟨heq, -⟩ | ⟨hold, -, -⟩
          · exact ⟨_, hentry, (heq ▸ hleads).trans (List.dropLast_prefix place)⟩
          · exact ⟨entry, hold, hleads⟩
        · intro ⟨entry, hold, hleads⟩
          by_cases hremoved : place <+: entry.1 ∨ entry.1 = place.dropLast
          · have hparent : location <+: place.dropLast := by
              rcases hremoved with hbelow | heq
              · rw [h.eq_of_prefix hentry hold hbelow] at hleads
                exact prefix_dropLast_of_ne hleads hne
              · exact heq ▸ hleads
            exact ⟨(place.dropLast, .directory),
              (mem_entries_remove_iff tree place _ _).mpr (.inl ⟨rfl, rfl⟩), hparent⟩
          · obtain ⟨hbelow, hne'⟩ := not_or.mp hremoved
            exact ⟨entry, (mem_entries_remove_iff tree place entry.1 entry.2).mpr
              (.inr ⟨hold, hbelow, hne'⟩), hleads⟩

theorem Sound.remove (h : tree.Sound) (hfile : tree.at? place = some (.file content)) :
    (tree.remove place).Sound := by
  have hentry := (tree.at?_eq_file_iff place content).mp hfile
  intro file hold hnot
  rcases (mem_entries_remove_iff tree place file.1 file.2).mp hold with
    ⟨-, hitem⟩ | ⟨hfile, hleft, -⟩
  · exact absurd hitem hnot
  · obtain ⟨hstart, hbelow⟩ := h file hfile hnot
    refine ⟨hstart, fun entry hrest hleads => ?_⟩
    rcases (mem_entries_remove_iff tree place entry.1 entry.2).mp hrest with
      ⟨heq, -⟩ | ⟨hother, -, -⟩
    · have hplace : place = file.1 :=
        hbelow _ hentry ((heq ▸ hleads).trans (List.dropLast_prefix place))
      exact absurd (hplace ▸ List.prefix_refl place) hleft
    · exact hbelow entry hother hleads

end Remove

theorem Lacks.cons {rest less tree : Tree} {place : Place} {places : List Place}
    (hrest : rest.Lacks tree [place]) (hless : less.Lacks rest places) :
    less.Lacks tree (place :: places) := by
  refine ⟨hless.start.trans hrest.start, ?_, ?_⟩
  · intro location hlocation
    by_cases hplaces : location ∈ places
    · exact hless.gone location hplaces
    · rw [hless.kept location hplaces]
      have heq := (List.mem_cons.mp hlocation).resolve_right hplaces
      exact hrest.gone location (List.mem_singleton.mpr heq)
  · intro location hlocation
    rw [List.mem_cons, not_or] at hlocation
    obtain ⟨hplace, hplaces⟩ := hlocation
    rw [hless.kept location hplaces]
    exact hrest.kept location fun hmem => hplace (List.mem_singleton.mp hmem)

/-- To remove files one after the other leaves the tree without them. -/
theorem Sound.lacks_foldl_remove {tree : Tree} (h : tree.Sound) {places : List Place}
    (hdistinct : places.Nodup)
    (hfiles : ∀ place ∈ places, ∃ content, tree.at? place = some (.file content)) :
    (places.foldl Tree.remove tree).Lacks tree places := by
  induction places generalizing tree with
  | nil => exact ⟨rfl, fun _ hplace => absurd hplace List.not_mem_nil, fun _ _ => rfl⟩
  | cons place places ih =>
      obtain ⟨hfirst, hothers⟩ := List.nodup_cons.mp hdistinct
      obtain ⟨content, hfile⟩ := hfiles place List.mem_cons_self
      have hrest := h.lacks_remove hfile
      refine hrest.cons (ih (h.remove hfile) hothers ?_)
      intro location hlocation
      obtain ⟨held, hat⟩ := hfiles location (List.mem_cons_of_mem place hlocation)
      refine ⟨held, ?_⟩
      rw [hrest.kept location ?_]
      · exact hat
      · intro hmem
        exact hfirst (List.mem_singleton.mp hmem ▸ hlocation)

end Tree

end Files

end Toolbench
