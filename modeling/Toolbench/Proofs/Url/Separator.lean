import Toolbench.Url.Parser

/-!
# Separators in addresses

The slashes, question marks and number signs behind the host of a web address say how many
segments are written in it and whether it has a query and a fragment.
-/

namespace Toolbench

namespace Url

/-- The slashes, question marks and number signs of a text. -/
def separators (text : List Char) : List Char :=
  text.filter (endsAuthority true)

theorem endsAuthority_iff (c : Char) :
    endsAuthority true c = true ↔ c = '/' ∨ c = '\\' ∨ c = '?' ∨ c = '#' := by
  simp [endsAuthority, isSlash, or_assoc]

theorem separators_append (before behind : List Char) :
    separators (before ++ behind) = separators before ++ separators behind :=
  List.filter_append before behind

theorem separators_eq_nil {text : List Char}
    (hnone : ∀ c ∈ text, endsAuthority true c = false) :
    separators text = [] := by
  refine List.filter_eq_nil_iff.mpr fun c hc => ?_
  simp [hnone c hc]

theorem exists_first {p : Char → Bool} {text : List Char} (hany : text.any p) :
    ∃ before e behind, text = before ++ e :: behind ∧ (∀ c ∈ before, p c = false) ∧
      p e = true := by
  induction text with
  | nil =>
      simp at hany
  | cons c rest ih =>
      cases hc : p c with
      | true => exact ⟨[], c, rest, rfl, by simp, hc⟩
      | false =>
          obtain ⟨before, e, behind, rfl, hbefore, he⟩ := ih (by simpa [hc] using hany)
          refine ⟨c :: before, e, behind, rfl, ?_, he⟩
          simpa [hc] using hbefore

theorem takeWhile_eq_self {α : Type} {p : α → Bool} {items : List α} (hitems : ∀ a ∈ items, p a) :
    items.takeWhile p = items := by
  have happend : (items ++ []).takeWhile p = items ++ [].takeWhile p :=
    List.takeWhile_append_of_pos hitems
  simpa using happend

theorem filter_takeWhile_of_imp {p q : Char → Bool} (himp : ∀ c, q c = false → p c = true)
    (text : List Char) :
    (text.takeWhile p).filter q = (text.filter q).takeWhile p := by
  induction text with
  | nil =>
      rfl
  | cons c rest ih =>
      cases hq : q c with
      | true =>
          cases hp : p c with
          | true => simp [hq, hp, ih]
          | false => simp [hq, hp]
      | false =>
          simp [hq, himp c hq, ih]

theorem filter_dropWhile_of_imp {p q : Char → Bool} (himp : ∀ c, q c = false → p c = true)
    (text : List Char) :
    (text.dropWhile p).filter q = (text.filter q).dropWhile p := by
  induction text with
  | nil =>
      rfl
  | cons c rest ih =>
      cases hq : q c with
      | true =>
          cases hp : p c with
          | true => simp [hq, hp, ih]
          | false => simp [hq, hp]
      | false =>
          simp [hq, himp c hq, ih]

theorem endsPath_eq_false_of_endsAuthority {c : Char} (hc : endsAuthority true c = false) :
    (!endsPath c) = true := by
  simp only [endsAuthority, Bool.or_eq_false_iff] at hc
  simp [endsPath, hc.1.2, hc.2]

theorem separators_path (text : List Char) :
    separators (text.takeWhile fun c => !endsPath c) =
      (separators text).takeWhile fun c => !endsPath c :=
  filter_takeWhile_of_imp (fun _ => endsPath_eq_false_of_endsAuthority) text

theorem separators_behindPath (text : List Char) :
    separators (text.dropWhile fun c => !endsPath c) =
      (separators text).dropWhile fun c => !endsPath c :=
  filter_dropWhile_of_imp (fun _ => endsPath_eq_false_of_endsAuthority) text

/-- One segment more is written than there are slashes. -/
theorem length_rawSegments (text : List Char) :
    (rawSegments true text).length = (text.filter (isSlash true)).length + 1 := by
  induction text with
  | nil =>
      rfl
  | cons c rest ih =>
      unfold rawSegments
      cases hslash : isSlash true c with
      | true =>
          simp [hslash, ih]
      | false =>
          cases hsegments : rawSegments true rest with
          | nil => simp [hsegments] at ih
          | cons first others => simpa [hslash, hsegments] using ih

theorem filter_isSlash_separators (text : List Char) :
    (separators text).filter (isSlash true) = text.filter (isSlash true) := by
  rw [separators, List.filter_filter]
  refine List.filter_congr fun c _ => ?_
  cases hslash : isSlash true c <;> simp [endsAuthority, hslash]

/-- The segments that are written in the path at the start of a text. -/
def writtenSegments (text : List Char) : List (List Char) :=
  match text.takeWhile fun c => !endsPath c with
  | [] => [[]]
  | c :: rest => rawSegments true (if isSlash true c then rest else c :: rest)

theorem webSegments_eq_resolve (text : List Char) :
    webSegments false (text.takeWhile fun c => !endsPath c) =
      resolve false [] (writtenSegments text) := by
  unfold webSegments writtenSegments
  cases text.takeWhile fun c => !endsPath c with
  | nil => rfl
  | cons c rest => rfl

theorem length_writtenSegments {e : Char} {left right : List Char}
    (hseparators : separators left = separators right) :
    (writtenSegments (e :: left)).length = (writtenSegments (e :: right)).length := by
  have hpath : ((left.takeWhile fun c => !endsPath c).filter (isSlash true)).length =
      ((right.takeWhile fun c => !endsPath c).filter (isSlash true)).length := by
    rw [← filter_isSlash_separators, separators_path, hseparators, ← separators_path,
      filter_isSlash_separators]
  cases hends : endsPath e with
  | true => simp [writtenSegments, hends]
  | false =>
      cases hslash : isSlash true e with
      | true => simpa [writtenSegments, hends, hslash, length_rawSegments] using hpath
      | false => simpa [writtenSegments, hends, hslash, length_rawSegments] using hpath

theorem dropWhile_ne_eq_nil_iff (mark : Char) (text : List Char) :
    text.dropWhile (· != mark) = [] ↔ mark ∉ text := by
  induction text with
  | nil =>
      simp
  | cons c rest ih =>
      by_cases hc : c = mark
      · simp [hc]
      · have hne : mark ≠ c := fun h => hc h.symm
        simp [hc, hne, ih]

theorem presence_behind_question (rest : List Char) :
    (queryAndFragment true ('?' :: rest)).1.isSome = true ∧
      (queryAndFragment true ('?' :: rest)).2.isSome = rest.contains '#' := by
  have hmark := dropWhile_ne_eq_nil_iff '#' rest
  unfold queryAndFragment
  cases hrest : rest.dropWhile (· != '#') with
  | nil =>
      simpa [hrest] using hmark.mp hrest
  | cons c fragment =>
      rw [hrest] at hmark
      simpa [hrest] using hmark

theorem contains_separators (text : List Char) :
    (separators text).contains '#' = text.contains '#' := by
  rw [Bool.eq_iff_iff]
  simp [separators, endsAuthority]

/-- Where a path ends, the separators say whether a query and a fragment follow. -/
theorem presence_of_separators {text : List Char} (hhead : text.head?.all endsPath) :
    (queryAndFragment true text).1.isSome = ((separators text).head? == some '?') ∧
      (queryAndFragment true text).2.isSome = (separators text).contains '#' := by
  cases text with
  | nil => exact ⟨rfl, rfl⟩
  | cons c rest =>
      have hends : c = '?' ∨ c = '#' := by
        simpa [endsPath] using hhead
      rw [contains_separators]
      rcases hends with rfl | rfl
      · obtain ⟨hquery, hfragment⟩ := presence_behind_question rest
        refine ⟨by rw [hquery]; rfl, ?_⟩
        rw [hfragment]
        simp
      · exact ⟨rfl, rfl⟩

theorem head?_behindPath (text : List Char) :
    (text.dropWhile fun c => !endsPath c).head?.all endsPath := by
  cases hbehind : text.dropWhile fun c => !endsPath c with
  | nil => rfl
  | cons c rest =>
      have hhead := List.head?_dropWhile_not (fun c => !endsPath c) text
      simpa [hbehind] using hhead

/-- Of two texts with the same separators, either both bring a query or none does, and so
with a fragment. -/
theorem presence_withRest (base : Url) {left right : List Char} (path : List Char → Path)
    (hseparators : separators left = separators right) :
    (base.withRest true left path).query.isSome = (base.withRest true right path).query.isSome ∧
      (base.withRest true left path).fragment.isSome =
        (base.withRest true right path).fragment.isSome := by
  have hleft := presence_of_separators (head?_behindPath left)
  have hright := presence_of_separators (head?_behindPath right)
  rw [separators_behindPath] at hleft hright
  unfold withRest
  simp only [hleft.1, hleft.2, hright.1, hright.2, hseparators, and_self]

end Url

end Toolbench
