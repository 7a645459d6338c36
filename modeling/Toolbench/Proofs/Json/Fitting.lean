import Toolbench.Proofs.Json.RoundTrip

/-!
# Values that were read

A reader gives values with their members in order that nest no deeper than it allows. Such a value
is read from its own text as itself.
-/

namespace Toolbench

namespace Json

theorem orderedItems_eq_self_iff (items : List Json) :
    orderedItems items = items ↔ ∀ item ∈ items, ordered item = item := by
  induction items with
  | nil => simp [orderedItems]
  | cons item items ih => simp [orderedItems, ih]

theorem orderedMembers_eq_self_iff (members : Members) :
    orderedMembers members = members ↔ ∀ entry ∈ members, ordered entry.2 = entry.2 := by
  induction members with
  | nil => simp [orderedMembers]
  | cons entry members ih =>
      obtain ⟨key, value⟩ := entry
      simp [orderedMembers, ih]

theorem exists_of_mem_orderedMembers {members : Members} {entry : String × Json}
    (hentry : entry ∈ orderedMembers members) :
    ∃ value, (entry.1, value) ∈ members ∧ entry.2 = ordered value := by
  induction members with
  | nil => cases hentry
  | cons first members ih =>
      obtain ⟨key, value⟩ := first
      rcases List.mem_cons.mp hentry with rfl | hrest
      · exact ⟨value, List.mem_cons_self, rfl⟩
      · obtain ⟨found, hfound, heq⟩ := ih hrest
        exact ⟨found, List.mem_cons_of_mem _ hfound, heq⟩

theorem nestingItems_lt_iff (items : List Json) {depth : Nat} (hdepth : 0 < depth) :
    nestingItems items < depth ↔ ∀ item ∈ items, nesting item < depth := by
  induction items with
  | nil => simp [nestingItems, hdepth]
  | cons item items ih => rw [nestingItems, Nat.max_lt, List.forall_mem_cons, ih]

theorem nestingMembers_lt_iff (members : Members) {depth : Nat} (hdepth : 0 < depth) :
    nestingMembers members < depth ↔ ∀ entry ∈ members, nesting entry.2 < depth := by
  induction members with
  | nil => simp [nestingMembers, hdepth]
  | cons entry members ih =>
      obtain ⟨key, value⟩ := entry
      rw [nestingMembers, Nat.max_lt, List.forall_mem_cons, ih]

theorem floatsOfItems_eq_nil_iff (items : List Json) :
    floatsOfItems items = [] ↔ ∀ item ∈ items, floats item = [] := by
  induction items with
  | nil => simp [floatsOfItems]
  | cons item items ih => simp [floatsOfItems, ih]

theorem floatsOfMembers_eq_nil_iff (members : Members) :
    floatsOfMembers members = [] ↔ ∀ entry ∈ members, floats entry.2 = [] := by
  induction members with
  | nil => simp [floatsOfMembers]
  | cons entry members ih =>
      obtain ⟨key, value⟩ := entry
      rw [floatsOfMembers, List.append_eq_nil_iff, List.forall_mem_cons, ih]

theorem orderedItems_eq_map (items : List Json) : orderedItems items = items.map ordered := by
  induction items with
  | nil => rfl
  | cons item items ih => rw [orderedItems, List.map_cons, ih]

theorem orderedMembers_append (front back : Members) :
    orderedMembers (front ++ back) = orderedMembers front ++ orderedMembers back := by
  induction front with
  | nil => rfl
  | cons entry front ih =>
      obtain ⟨key, value⟩ := entry
      rw [List.cons_append, orderedMembers, orderedMembers, ih, List.cons_append]

namespace Members

theorem mem_of_mem_ofList {pairs : Members} {entry : String × Json}
    (hmem : entry ∈ ofList pairs) : entry ∈ pairs := by
  have hfound := (mem_iff_find? (ordered_ofList pairs).distinct entry.1 entry.2).mp hmem
  rw [find?_ofList] at hfound
  exact List.mem_reverse.mp (mem_of_find? hfound)

theorem ofList_eq_self {members : Members} (hordered : Ordered members) :
    ofList members = members :=
  (ordered_ofList members).ext hordered fun key value =>
    mem_ofList hordered.distinct (key, value)

theorem ordered_of_sublist {members : Members} {keys : List String}
    (hkeys : keys.Pairwise (· < ·)) (hsublist : (members.map Prod.fst).Sublist keys) :
    Ordered members :=
  List.pairwise_map.mp (hkeys.sublist hsublist)

/-- Members in any order make the object that has them in the order of their keys. -/
theorem ofList_eq_of_perm {pairs sorted : Members} (hperm : pairs.Perm sorted)
    (hordered : Ordered sorted) : ofList pairs = sorted := by
  have hdistinct : Distinct pairs :=
    (hperm.pairwise_iff fun hne heq => hne heq.symm).mpr hordered.distinct
  exact (ordered_ofList pairs).ext hordered fun key value =>
    (mem_ofList hdistinct (key, value)).trans hperm.mem_iff

end Members

/-- A value as a reader gives it: it nests less than so deep, and its members are in order. -/
structure Fits (depth : Nat) (value : Json) : Prop where
  nesting_lt : nesting value < depth
  ordered_eq : ordered value = value

theorem Fits.scalar {depth : Nat} {value : Json} (hscalar : value.isScalar) (hdepth : 0 < depth) :
    Fits depth value := by
  cases value with
  | array items => cases hscalar
  | object members => cases hscalar
  | _ => exact ⟨hdepth, rfl⟩

theorem fits_array_iff {depth : Nat} (hdepth : 1 < depth) (items : List Json) :
    Fits depth (.array items) ↔ ∀ item ∈ items, Fits (depth - 1) item := by
  have hbound : 0 < depth - 1 := by
    omega
  have hnesting : nesting (.array items) < depth ↔ ∀ item ∈ items, nesting item < depth - 1 := by
    rw [← nestingItems_lt_iff items hbound, nesting]
    omega
  constructor
  · intro hfits item hitem
    have hordered := Json.array.inj hfits.ordered_eq
    rw [orderedItems_eq_self_iff] at hordered
    exact ⟨hnesting.mp hfits.nesting_lt item hitem, hordered item hitem⟩
  · intro hitems
    have hordered := (orderedItems_eq_self_iff items).mpr fun item hitem =>
      (hitems item hitem).ordered_eq
    refine ⟨hnesting.mpr fun item hitem => (hitems item hitem).nesting_lt, ?_⟩
    rw [ordered, hordered]

theorem fits_object_iff {depth : Nat} (hdepth : 1 < depth) (members : Members) :
    Fits depth (.object members) ↔
      members.Ordered ∧ ∀ entry ∈ members, Fits (depth - 1) entry.2 := by
  have hbound : 0 < depth - 1 := by
    omega
  have hnesting : nesting (.object members) < depth ↔
      ∀ entry ∈ members, nesting entry.2 < depth - 1 := by
    rw [← nestingMembers_lt_iff members hbound, nesting]
    omega
  constructor
  · intro hfits
    have hlisted := Json.object.inj hfits.ordered_eq
    have hordered : members.Ordered := hlisted ▸ Members.ordered_ofList _
    refine ⟨hordered, fun entry hentry => ⟨hnesting.mp hfits.nesting_lt entry hentry, ?_⟩⟩
    have hpart : entry ∈ orderedMembers members :=
      Members.mem_of_mem_ofList (hlisted.symm ▸ hentry)
    obtain ⟨value, hvalue, heq⟩ := exists_of_mem_orderedMembers hpart
    -- the keys are distinct, so the entry is the member that it comes from
    have hsame := (Members.mem_iff_find? hordered.distinct _ _).mp hvalue
    rw [(Members.mem_iff_find? hordered.distinct entry.1 entry.2).mp hentry] at hsame
    rw [← Option.some.inj hsame] at heq
    exact heq.symm
  · rintro ⟨hordered, hmembers⟩
    have hparts := (orderedMembers_eq_self_iff members).mpr fun entry hentry =>
      (hmembers entry hentry).ordered_eq
    refine ⟨hnesting.mpr fun entry hentry => (hmembers entry hentry).nesting_lt, ?_⟩
    rw [ordered, hparts, Members.ofList_eq_self hordered]

theorem Fits.mono {depth bound : Nat} {value : Json} (hfits : Fits depth value)
    (hdepth : depth ≤ bound) : Fits bound value :=
  ⟨Nat.lt_of_lt_of_le hfits.nesting_lt hdepth, hfits.ordered_eq⟩

/-- The items of a list fit where the list does. -/
theorem Fits.item {depth : Nat} {items : List Json} (hfits : Fits depth (.array items))
    {item : Json} (hitem : item ∈ items) : Fits depth item := by
  have hnesting := hfits.nesting_lt
  rw [nesting] at hnesting
  exact ((fits_array_iff (by omega) items).mp hfits item hitem).mono (Nat.sub_le _ _)

/-- The members of an object fit where the object does. -/
theorem Fits.get? {depth : Nat} {value part : Json} (hfits : Fits depth value) {key : String}
    (hpart : value.get? key = some part) : Fits depth part := by
  cases value with
  | object members =>
      have hnesting := hfits.nesting_lt
      rw [nesting] at hnesting
      have hmembers := ((fits_object_iff (by omega) members).mp hfits).2
      exact (hmembers (key, part) (Members.mem_of_find? hpart)).mono (Nat.sub_le _ _)
  | _ => cases hpart

theorem readWord_eq {value found : Json} {word text rest : List Char}
    (hread : readWord value word text = .ok (found, rest)) : found = value := by
  induction word generalizing text with
  | nil => exact (Prod.mk.inj (Except.ok.inj hread)).1.symm
  | cons expected word ih =>
      cases text with
      | nil => cases hread
      | cons c text =>
          rw [readWord] at hread
          split at hread
          · exact ih hread
          · cases hread

theorem bind_eq_ok {ε α β : Type} {result : Except ε α} {next : α → Except ε β} {value : β}
    (hbind : (result >>= next) = .ok value) :
    ∃ found, result = .ok found ∧ next found = .ok value := by
  cases result with
  | error fault => cases hbind
  | ok found => exact ⟨found, rfl, hbind⟩

/-- What the readers give within a number of steps fits the depth that they are bound to. -/
structure ReadersFit (fuel : Nat) : Prop where
  value : ∀ {depth : Nat} {text rest : List Char} {value : Json}, 0 < depth →
    readValue fuel depth text = .ok (value, rest) → Fits depth value
  items : ∀ {depth : Nat} {first : Bool} {text rest : List Char} {items : List Json}, 0 < depth →
    readItems fuel depth first text = .ok (items, rest) → ∀ item ∈ items, Fits depth item
  members : ∀ {depth : Nat} {first : Bool} {text rest : List Char} {members : Members},
    0 < depth → readMembers fuel depth first text = .ok (members, rest) →
    ∀ entry ∈ members, Fits depth entry.2

theorem ReadersFit.value_succ {fuel depth : Nat} (hfit : ReadersFit fuel) {text rest : List Char}
    {value : Json} (hdepth : 0 < depth)
    (hread : readValue (fuel + 1) depth text = .ok (value, rest)) : Fits depth value := by
  rw [readValue] at hread
  split at hread
  · cases hread
  · exact .scalar (readWord_eq hread ▸ rfl) hdepth
  · exact .scalar (readWord_eq hread ▸ rfl) hdepth
  · exact .scalar (readWord_eq hread ▸ rfl) hdepth
  · obtain ⟨found, -, hvalue⟩ := bind_eq_ok hread
    cases hvalue
    exact .scalar rfl hdepth
  · obtain ⟨found, -, hvalue⟩ := bind_eq_ok hread
    cases hvalue
    exact .scalar rfl hdepth
  · split at hread
    · cases hread
    · rename_i hdeep
      obtain ⟨⟨items, behind⟩, hitems, hvalue⟩ := bind_eq_ok hread
      cases hvalue
      exact (fits_array_iff (by omega) items).mpr (hfit.items (by omega) hitems)
  · split at hread
    · cases hread
    · rename_i hdeep
      obtain ⟨⟨members, behind⟩, hmembers, hvalue⟩ := bind_eq_ok hread
      cases hvalue
      refine (fits_object_iff (by omega) _).mpr ⟨Members.ordered_ofList members, ?_⟩
      intro entry hentry
      exact hfit.members (by omega) hmembers entry (Members.mem_of_mem_ofList hentry)
  · split at hread
    · obtain ⟨found, -, hvalue⟩ := bind_eq_ok hread
      cases hvalue
      exact .scalar rfl hdepth
    · cases hread

theorem ReadersFit.items_succ {fuel depth : Nat} (hfit : ReadersFit fuel) {first : Bool}
    {text rest : List Char} {items : List Json} (hdepth : 0 < depth)
    (hread : readItems (fuel + 1) depth first text = .ok (items, rest)) :
    ∀ item ∈ items, Fits depth item := by
  rw [readItems] at hread
  obtain ⟨⟨more, behind⟩, -, hmore⟩ := bind_eq_ok hread
  cases more with
  | false =>
      cases hmore
      exact List.forall_mem_nil _
  | true =>
      obtain ⟨⟨item, afterItem⟩, hitem, hread⟩ := bind_eq_ok hmore
      obtain ⟨⟨others, left⟩, hothers, hitems⟩ := bind_eq_ok hread
      cases hitems
      exact List.forall_mem_cons.mpr ⟨hfit.value hdepth hitem, hfit.items hdepth hothers⟩

theorem ReadersFit.members_succ {fuel depth : Nat} (hfit : ReadersFit fuel) {first : Bool}
    {text rest : List Char} {members : Members} (hdepth : 0 < depth)
    (hread : readMembers (fuel + 1) depth first text = .ok (members, rest)) :
    ∀ entry ∈ members, Fits depth entry.2 := by
  rw [readMembers] at hread
  obtain ⟨⟨more, behind⟩, -, hmore⟩ := bind_eq_ok hread
  cases more with
  | false =>
      cases hmore
      exact List.forall_mem_nil _
  | true =>
      obtain ⟨⟨key, afterKey⟩, -, hread⟩ := bind_eq_ok hmore
      obtain ⟨afterColon, -, hread⟩ := bind_eq_ok hread
      obtain ⟨⟨value, afterValue⟩, hvalue, hread⟩ := bind_eq_ok hread
      obtain ⟨⟨others, left⟩, hothers, hmembers⟩ := bind_eq_ok hread
      cases hmembers
      exact List.forall_mem_cons.mpr ⟨hfit.value hdepth hvalue, hfit.members hdepth hothers⟩

theorem readersFit (fuel : Nat) : ReadersFit fuel := by
  induction fuel with
  | zero =>
      refine ⟨?_, ?_, ?_⟩
      · intro depth text rest value hdepth hread
        cases hread
      · intro depth first text rest items hdepth hread
        cases hread
      · intro depth first text rest members hdepth hread
        cases hread
  | succ fuel ih => exact ⟨ih.value_succ, ih.items_succ, ih.members_succ⟩

/-- A value that was read has its members in order and does not nest too deep. -/
theorem fits_of_parse {text : String} {value : Json} (hparse : parse text = .ok value) :
    Fits maxDepth value := by
  obtain ⟨rest, hread, -⟩ := (parse_eq_ok_iff text value).mp hparse
  exact (readersFit _).value (by decide) hread

/-- A value that was read and written is read again as itself. -/
theorem parse_write_of_fits {value : Json} (hfits : Fits maxDepth value)
    (hfloats : ∀ x ∈ floats value, x.RoundTrips) : parse value.write = .ok value := by
  rw [parse_write hfloats hfits.nesting_lt, hfits.ordered_eq]

theorem isBlank_eq_false_of_isDigit {c : Char} (hc : c.isDigit) : Text.isBlank c = false :=
  isBlank_of_isNumeral (by simp [isNumeral, hc])

/-- A blank text is no document. -/
theorem not_isBlankText_of_parse {text : String} {value : Json}
    (hparse : parse text = .ok value) : Text.isBlankText text = false := by
  obtain ⟨rest, hread, -⟩ := (parse_eq_ok_iff text value).mp hparse
  rw [Bool.eq_false_iff]
  intro hblank
  have hall : ∀ c ∈ skipSpaces text.toList, Text.isBlank c := fun c hc =>
    List.all_eq_true.mp hblank c ((List.dropWhile_sublist _).subset hc)
  rw [readValue] at hread
  split at hread
  case h_1 => cases hread
  case h_9 htext =>
    split at hread
    · rename_i hdigit
      have hc := hall _ (htext ▸ List.mem_cons_self)
      rw [isBlank_eq_false_of_isDigit hdigit] at hc
      cases hc
    · cases hread
  all_goals
    rename_i htext
    have hc := hall _ (htext ▸ List.mem_cons_self)
    exact absurd hc (by decide)

end Json

end Toolbench
