import Toolbench.Proofs.Url.Separator

/-!
# Cleaning an address

Before an address is read, what surrounds it and the tabs and line breaks in it are taken
out. No separator is lost, so the segments are the same ones, each cleaned by itself; only
the last one can lose spaces at its end.
-/

namespace Toolbench

namespace Url

/-- Whether a character is left in when tabs and line breaks are taken out. -/
def staysWithin (c : Char) : Bool :=
  !(c = '\t' || c = '\n' || c = '\r')

def stripped (text : List Char) : List Char :=
  text.filter staysWithin

def trimmedEnd (text : List Char) : List Char :=
  (text.reverse.dropWhile isSpaceOrControl).reverse

theorem cleaned_eq (text : List Char) :
    cleaned text = stripped (trimmedEnd (text.dropWhile isSpaceOrControl)) :=
  rfl

theorem not_isSpaceOrControl_of_endsAuthority {c : Char} (hc : endsAuthority true c = true) :
    isSpaceOrControl c = false := by
  rcases (endsAuthority_iff c).mp hc with rfl | rfl | rfl | rfl <;> rfl

theorem trimmedEnd_append_cons (before behind : List Char) {c : Char}
    (hc : isSpaceOrControl c = false) :
    trimmedEnd (before ++ c :: behind) = before ++ c :: trimmedEnd behind := by
  have hreverse : (before ++ c :: behind).reverse = behind.reverse ++ (c :: before.reverse) := by
    simp
  unfold trimmedEnd
  rw [hreverse, List.dropWhile_append]
  cases hempty : (behind.reverse.dropWhile isSpaceOrControl).isEmpty with
  | true =>
      rw [List.isEmpty_iff] at hempty
      simp [hempty, hc]
  | false =>
      simp

theorem separators_dropSpaces (text : List Char) :
    separators (text.dropWhile isSpaceOrControl) = separators text := by
  induction text with
  | nil =>
      rfl
  | cons c rest ih =>
      cases hspace : isSpaceOrControl c with
      | false =>
          simp [hspace]
      | true =>
          have hends : endsAuthority true c = false := by
            cases hends : endsAuthority true c with
            | false => rfl
            | true => simp [not_isSpaceOrControl_of_endsAuthority hends] at hspace
          rw [List.dropWhile_cons_of_pos hspace, ih]
          simp [separators, hends]

theorem separators_trimmedEnd (text : List Char) :
    separators (trimmedEnd text) = separators text := by
  have hreverse := separators_dropSpaces text.reverse
  simpa [trimmedEnd, separators] using congrArg List.reverse hreverse

theorem separators_stripped (text : List Char) : separators (stripped text) = separators text := by
  rw [separators, stripped, List.filter_filter]
  refine List.filter_congr fun c _ => ?_
  cases hends : endsAuthority true c with
  | false => rfl
  | true => rcases (endsAuthority_iff c).mp hends with rfl | rfl | rfl | rfl <;> rfl

theorem rawSegments_ne_nil (text : List Char) : rawSegments true text ≠ [] := by
  have hlength := length_rawSegments text
  intro hnil
  simp [hnil] at hlength

theorem rawSegments_cons {c : Char} (hslash : isSlash true c = false) {text : List Char}
    {first : List Char} {others : List (List Char)}
    (hsegments : rawSegments true text = first :: others) :
    rawSegments true (c :: text) = (c :: first) :: others := by
  simp [rawSegments, hslash, hsegments]

theorem rawSegments_slash {c : Char} (hslash : isSlash true c = true) (text : List Char) :
    rawSegments true (c :: text) = [] :: rawSegments true text := by
  simp [rawSegments, hslash]

theorem staysWithin_of_isSlash {c : Char} (hslash : isSlash true c = true) :
    staysWithin c = true := by
  have hc : c = '/' ∨ c = '\\' := by
    simpa [isSlash] using hslash
  rcases hc with rfl | rfl <;> rfl

theorem stripped_cons_of_stays {c : Char} (hstays : staysWithin c = true) (text : List Char) :
    stripped (c :: text) = c :: stripped text :=
  List.filter_cons_of_pos hstays

theorem stripped_cons_of_goes {c : Char} (hgoes : staysWithin c = false) (text : List Char) :
    stripped (c :: text) = stripped text :=
  List.filter_cons_of_neg (by simp [hgoes])

theorem rawSegments_stripped (text : List Char) :
    rawSegments true (stripped text) = (rawSegments true text).map stripped := by
  induction text with
  | nil =>
      rfl
  | cons c rest ih =>
      cases hslash : isSlash true c with
      | true =>
          rw [stripped_cons_of_stays (staysWithin_of_isSlash hslash), rawSegments_slash hslash,
            rawSegments_slash hslash, ih]
          rfl
      | false =>
          cases hsegments : rawSegments true rest with
          | nil => exact absurd hsegments (rawSegments_ne_nil rest)
          | cons first others =>
              rw [hsegments, List.map_cons] at ih
              rw [rawSegments_cons hslash hsegments, List.map_cons]
              cases hstays : staysWithin c with
              | true =>
                  rw [stripped_cons_of_stays hstays, stripped_cons_of_stays hstays,
                    rawSegments_cons hslash ih]
              | false =>
                  rw [stripped_cons_of_goes hstays, stripped_cons_of_goes hstays, ih]

theorem trimmedEnd_cons (c : Char) (text : List Char) :
    trimmedEnd (c :: text) =
      if (trimmedEnd text).isEmpty && isSpaceOrControl c then [] else c :: trimmedEnd text := by
  unfold trimmedEnd
  rw [List.reverse_cons, List.dropWhile_append]
  cases hrest : text.reverse.dropWhile isSpaceOrControl with
  | nil => cases hspace : isSpaceOrControl c <;> simp [hspace]
  | cons first others => simp

/-- A list of which the last item is changed. -/
def modifyLast {α : Type} (change : α → α) : List α → List α
  | [] => []
  | [last] => [change last]
  | item :: rest => item :: modifyLast change rest

theorem modifyLast_cons {α : Type} (change : α → α) (item : α) {rest : List α}
    (hrest : rest ≠ []) :
    modifyLast change (item :: rest) = item :: modifyLast change rest := by
  cases rest with
  | nil => exact absurd rfl hrest
  | cons next rest => rfl

theorem rawSegments_eq_singleton {text : List Char} {segment : List Char}
    (hsegments : rawSegments true text = [segment]) : text = segment := by
  induction text generalizing segment with
  | nil =>
      simpa [rawSegments] using hsegments
  | cons c rest ih =>
      cases hslash : isSlash true c with
      | true =>
          rw [rawSegments_slash hslash] at hsegments
          exact absurd (List.cons.inj hsegments).2 (rawSegments_ne_nil rest)
      | false =>
          cases hrest : rawSegments true rest with
          | nil => exact absurd hrest (rawSegments_ne_nil rest)
          | cons first others =>
              rw [rawSegments_cons hslash hrest] at hsegments
              obtain ⟨rfl, rfl⟩ := List.cons.inj hsegments
              rw [ih hrest]

theorem rawSegments_trimmedEnd (text : List Char) :
    rawSegments true (trimmedEnd text) = modifyLast trimmedEnd (rawSegments true text) := by
  induction text with
  | nil =>
      rfl
  | cons c rest ih =>
      cases hslash : isSlash true c with
      | true =>
          have hspace : isSpaceOrControl c = false := by
            refine not_isSpaceOrControl_of_endsAuthority ?_
            simp [endsAuthority, hslash]
          rw [trimmedEnd_cons, hspace, Bool.and_false]
          simp only [Bool.false_eq_true, if_false]
          rw [rawSegments_slash hslash, rawSegments_slash hslash, ih,
            modifyLast_cons _ _ (rawSegments_ne_nil rest)]
      | false =>
          cases hrest : rawSegments true rest with
          | nil => exact absurd hrest (rawSegments_ne_nil rest)
          | cons first others =>
              rw [rawSegments_cons hslash hrest]
              rw [hrest] at ih
              cases others with
              | nil =>
                  obtain rfl := rawSegments_eq_singleton hrest
                  rw [modifyLast, trimmedEnd_cons]
                  split
                  · rfl
                  · exact rawSegments_cons hslash ih
              | cons second others =>
                  have hnonempty : (trimmedEnd rest).isEmpty = false := by
                    cases htrimmed : trimmedEnd rest with
                    | cons c rest => rfl
                    | nil =>
                        rw [htrimmed] at ih
                        cases others <;> simp [rawSegments, modifyLast] at ih
                  rw [trimmedEnd_cons, hnonempty, Bool.false_and]
                  exact rawSegments_cons hslash ih

theorem path_stripped (text : List Char) :
    ((stripped text).takeWhile fun c => !endsPath c) =
      stripped (text.takeWhile fun c => !endsPath c) := by
  refine (filter_takeWhile_of_imp (fun c hgoes => ?_) text).symm
  simp only [staysWithin, Bool.not_eq_false', Bool.or_eq_true, decide_eq_true_eq] at hgoes
  rcases hgoes with (rfl | rfl) | rfl <;> rfl

theorem endsAuthority_of_endsPath {c : Char} (hends : endsPath c = true) :
    endsAuthority true c = true := by
  have hc : c = '?' ∨ c = '#' := by
    simpa [endsPath] using hends
  rcases hc with rfl | rfl <;> rfl

/-- Spaces are taken off the end of a path only where nothing follows it. -/
theorem path_trimmedEnd (text : List Char) :
    ((trimmedEnd text).takeWhile fun c => !endsPath c) =
      if text.any endsPath then text.takeWhile fun c => !endsPath c else trimmedEnd text := by
  cases hany : text.any endsPath with
  | true =>
      obtain ⟨before, e, behind, rfl, hbefore, he⟩ := exists_first hany
      have hspace : isSpaceOrControl e = false :=
        not_isSpaceOrControl_of_endsAuthority (endsAuthority_of_endsPath he)
      have hstay : ∀ c ∈ before, (!endsPath c) = true := by
        simpa using hbefore
      rw [trimmedEnd_append_cons _ _ hspace, List.takeWhile_append_of_pos hstay,
        if_pos rfl, List.takeWhile_append_of_pos hstay]
      simp [he]
  | false =>
      rw [if_neg Bool.false_ne_true]
      refine takeWhile_eq_self fun c hc => ?_
      have hmem : c ∈ text := by
        simpa using (List.dropWhile_sublist _).mem (List.mem_reverse.mp hc)
      simpa using List.any_eq_false.mp hany c hmem

theorem not_endsPath_of_isSlash {c : Char} (hslash : isSlash true c = true) :
    endsPath c = false := by
  have hc : c = '/' ∨ c = '\\' := by
    simpa [isSlash] using hslash
  rcases hc with rfl | rfl <;> rfl

/-- The segments written behind a slash, before and after cleaning. -/
theorem writtenSegments_cleaned {e : Char} (he : isSlash true e = true) (text : List Char) :
    writtenSegments (e :: stripped (trimmedEnd text)) =
      if text.any endsPath then
        (rawSegments true (text.takeWhile fun c => !endsPath c)).map stripped
      else (modifyLast trimmedEnd (rawSegments true text)).map stripped := by
  simp only [writtenSegments, List.takeWhile_cons, not_endsPath_of_isSlash he, Bool.not_false, if_true, he,
    path_stripped, path_trimmedEnd, rawSegments_stripped]
  split
  · rfl
  · rw [rawSegments_trimmedEnd]

end Url

end Toolbench
