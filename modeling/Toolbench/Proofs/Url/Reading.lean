import Toolbench.Proofs.Url.Authority
import Toolbench.Proofs.Url.Cleaning
import Toolbench.Proofs.Url.Depth

/-!
# Reading an address from its opening

An opening that reaches behind the authority of a web address settles the scheme, the
credentials, the host and the port. What is written behind it gives the path, the query and
the fragment, of which the separators alone say how they are laid out.
-/

namespace Toolbench

namespace Url

/-- The characters of a scheme. -/
def isSchemePart (c : Char) : Bool :=
  c.isAlphanum || c = '+' || c = '-' || c = '.'

theorem scheme?_eq (text : List Char) :
    scheme? text =
      match text.head?, text.dropWhile isSchemePart with
      | some first, ':' :: rest =>
          if first.isAlpha then
            some (String.ofList ((text.takeWhile isSchemePart).map Char.toLower), rest)
          else none
      | _, _ => none :=
  rfl

theorem scheme?_append {letters : List Char} (hletters : ∀ c ∈ letters, isSchemePart c)
    (halpha : letters.head?.any Char.isAlpha) (rest : List Char) :
    scheme? (letters ++ ':' :: rest) =
      some (String.ofList (letters.map Char.toLower), rest) := by
  cases letters with
  | nil => simp at halpha
  | cons first letters =>
      have htake : ((first :: letters) ++ ':' :: rest).takeWhile isSchemePart =
          first :: letters := by
        rw [List.takeWhile_append_of_pos hletters]
        simp [isSchemePart]
      have hdrop : ((first :: letters) ++ ':' :: rest).dropWhile isSchemePart = ':' :: rest := by
        rw [List.dropWhile_append_of_pos hletters]
        simp [isSchemePart]
      rw [scheme?_eq, hdrop, htake]
      simpa using halpha

theorem scheme?_eq_some {text : List Char} {scheme : String} {rest : List Char}
    (hscheme : scheme? text = some (scheme, rest)) :
    ∃ letters, text = letters ++ ':' :: rest ∧ (∀ c ∈ letters, isSchemePart c = true) ∧
      ∀ other, scheme? (letters ++ ':' :: other) = some (scheme, other) := by
  have hsplit : text.takeWhile isSchemePart ++ text.dropWhile isSchemePart = text :=
    List.takeWhile_append_dropWhile
  have hletters : ∀ c ∈ text.takeWhile isSchemePart, isSchemePart c :=
    List.all_eq_true.mp List.all_takeWhile
  rw [scheme?_eq] at hscheme
  split at hscheme
  · rename_i first rest' hfirst hrest
    split at hscheme
    · rename_i halpha
      obtain ⟨rfl, rfl⟩ := Prod.mk.inj (Option.some.inj hscheme)
      rw [hrest] at hsplit
      refine ⟨text.takeWhile isSchemePart, hsplit.symm, hletters, scheme?_append hletters ?_⟩
      cases text with
      | nil => simp at hfirst
      | cons c text =>
          obtain rfl : c = first := by simpa using hfirst
          have hpart : isSchemePart c := by
            simp [isSchemePart, Char.isAlphanum, halpha]
          simp [List.takeWhile_cons_of_pos hpart, halpha]
    · cases hscheme
  · cases hscheme

/-- Whether a text reaches behind the authority of a web address. -/
def reachesPath (text : List Char) : Bool :=
  match scheme? (stripped (text.dropWhile isSpaceOrControl)) with
  | some (scheme, rest) =>
      (scheme == "http" || scheme == "https") &&
        (rest.dropWhile (isSlash true)).any (endsAuthority true)
  | none => false

/-- The segments that are written in the path of a web address. -/
def writtenPath (text : List Char) : List (List Char) :=
  match scheme? (cleaned text) with
  | some (_, rest) =>
      writtenSegments
        ((rest.dropWhile (isSlash true)).dropWhile fun c => !endsAuthority true c)
  | none => []

/-- The parts of a text that reaches behind the authority of a web address, without what is
taken out of it before it is read. -/
structure Opening (text : List Char) where
  scheme : String
  letters : List Char
  slashes : List Char
  authority : List Char
  /-- The character that ends the authority. -/
  ending : Char
  tail : List Char
  special : isSpecial scheme = true
  not_file : (scheme == "file") = false
  letters_parts : ∀ c ∈ letters, isSchemePart c = true
  scheme_eq : ∀ other, scheme? (letters ++ ':' :: other) = some (scheme, other)
  slashes_slash : ∀ c ∈ slashes, isSlash true c = true
  beyond_slashes : ∀ other,
    (authority ++ ending :: other).dropWhile (isSlash true) = authority ++ ending :: other
  authority_within : ∀ c ∈ authority, endsAuthority true c = false
  ending_ends : endsAuthority true ending = true
  spelled : stripped (text.dropWhile isSpaceOrControl) =
    (letters ++ ':' :: (slashes ++ authority)) ++ ending :: tail

theorem nonempty_opening {text : List Char} (hreaches : reachesPath text) :
    Nonempty (Opening text) := by
  unfold reachesPath at hreaches
  split at hreaches
  · rename_i scheme rest hscheme
    simp only [Bool.and_eq_true, Bool.or_eq_true, beq_iff_eq] at hreaches
    obtain ⟨hweb, hany⟩ := hreaches
    obtain ⟨authority, ending, tail, hbeyond, hauthority, hending⟩ := exists_first hany
    obtain ⟨letters, hletters, hparts, hreread⟩ := scheme?_eq_some hscheme
    refine ⟨⟨scheme, letters, rest.takeWhile (isSlash true), authority, ending, tail,
      ?_, ?_, hparts, hreread, List.all_eq_true.mp List.all_takeWhile, fun other => ?_,
      hauthority, hending, ?_⟩⟩
    · rcases hweb with rfl | rfl <;> decide
    · rcases hweb with rfl | rfl <;> decide
    · have hfirst := List.head?_dropWhile_not (isSlash true) rest
      rw [hbeyond] at hfirst
      cases authority with
      | nil => exact List.dropWhile_cons_of_neg (by simpa using hfirst)
      | cons c authority => exact List.dropWhile_cons_of_neg (by simpa using hfirst)
    · have hrest : rest.takeWhile (isSlash true) ++ (authority ++ ending :: tail) = rest := by
        rw [← hbeyond, List.takeWhile_append_dropWhile]
      rw [hletters]
      conv => lhs; rw [← hrest]
      simp
  · cases hreaches

namespace Opening

variable {text : List Char} (opening : Opening text)

theorem not_endsPath_head {c : Char}
    (hc : c ∈ opening.letters ++ ':' :: (opening.slashes ++ opening.authority)) :
    endsPath c = false := by
  cases hends : endsPath c with
  | false => rfl
  | true =>
      have hmark : c = '?' ∨ c = '#' := by
        simpa [endsPath] using hends
      have hends' := endsAuthority_of_endsPath hends
      simp only [List.mem_append, List.mem_cons] at hc
      rcases hc with hletter | rfl | hslash | hauthority
      · have hpart := opening.letters_parts c hletter
        rcases hmark with rfl | rfl <;> exact absurd hpart (by decide)
      · exact absurd hends (by decide)
      · have hsep := opening.slashes_slash c hslash
        rcases hmark with rfl | rfl <;> exact absurd hsep (by decide)
      · rw [opening.authority_within c hauthority] at hends'
        cases hends'

/-- Cleaning leaves what stands before the end of the authority, and works on what is behind
by itself. -/
theorem exists_cleaned_append :
    ∃ front behind, text = front ++ opening.ending :: behind ∧
      (∀ c ∈ front, endsPath c = false) ∧
      ∀ rest, cleaned (text ++ rest) =
        (opening.letters ++ ':' :: (opening.slashes ++ opening.authority)) ++
          opening.ending :: stripped (trimmedEnd (behind ++ rest)) := by
  obtain ⟨head, closing, hsplit, hhead, hclosing⟩ := List.filter_eq_append_iff.mp opening.spelled
  obtain ⟨gap, behind, rfl, hgap, hkept, -⟩ := List.filter_eq_cons_iff.mp hclosing
  refine ⟨text.takeWhile isSpaceOrControl ++ (head ++ gap), behind, ?_, ?_, fun rest => ?_⟩
  · conv => lhs; rw [← List.takeWhile_append_dropWhile (p := isSpaceOrControl) (l := text)]
    rw [hsplit]
    simp
  · intro c hc
    cases hends : endsPath c with
    | false => rfl
    | true =>
        have hkeeps : staysWithin c = true := by
          have hmark : c = '?' ∨ c = '#' := by
            simpa [endsPath] using hends
          rcases hmark with rfl | rfl <;> rfl
        rw [← hends]
        rcases List.mem_append.mp hc with hspace | hrest
        · have hblank := List.all_eq_true.mp List.all_takeWhile c hspace
          rw [not_isSpaceOrControl_of_endsAuthority (endsAuthority_of_endsPath hends)] at hblank
          cases hblank
        · rcases List.mem_append.mp hrest with hmem | hmem
          · refine opening.not_endsPath_head ?_
            rw [← hhead]
            exact List.mem_filter.mpr ⟨hmem, hkeeps⟩
          · exact absurd hkeeps (hgap c hmem)
  · have hnonempty : (text.dropWhile isSpaceOrControl).isEmpty = false := by
      rw [hsplit]
      simp
    have hgapped : gap.filter staysWithin = [] :=
      List.filter_eq_nil_iff.mpr hgap
    have hwhole : (text ++ rest).dropWhile isSpaceOrControl =
        (head ++ gap) ++ opening.ending :: (behind ++ rest) := by
      rw [List.dropWhile_append, hnonempty, hsplit]
      simp
    rw [cleaned_eq, hwhole,
      trimmedEnd_append_cons _ _ (not_isSpaceOrControl_of_endsAuthority opening.ending_ends),
      stripped, List.filter_append, List.filter_append, hhead, hgapped,
      List.filter_cons_of_pos hkept, List.append_nil]
    rfl

theorem skip_slashes (other : List Char) :
    (opening.slashes ++ (opening.authority ++ opening.ending :: other)).dropWhile (isSlash true) =
      opening.authority ++ opening.ending :: other := by
  rw [List.dropWhile_append_of_pos opening.slashes_slash, opening.beyond_slashes]

/-- Behind an opening, an address is read from what is behind the authority alone, except for
the parts that the opening settles. -/
theorem exists_parse_append :
    ∃ (base : Except Fault Url) (front behind : List Char),
      text = front ++ opening.ending :: behind ∧ (∀ c ∈ front, endsPath c = false) ∧
      ∀ rest,
        parse (String.ofList (text ++ rest)) =
          (base.map fun url =>
            url.withRest true (opening.ending :: stripped (trimmedEnd (behind ++ rest))) webPath) ∧
        writtenPath (text ++ rest) =
          writtenSegments (opening.ending :: stripped (trimmedEnd (behind ++ rest))) := by
  obtain ⟨front, behind, hsplit, hfront, hcleaned⟩ := opening.exists_cleaned_append
  obtain ⟨base, hbase⟩ :=
    withAuthority?_append opening.special opening.authority_within opening.ending_ends
  have hscheme : ∀ other, scheme? (cleaned (text ++ other)) =
      some (opening.scheme, opening.slashes ++ (opening.authority ++
        opening.ending :: stripped (trimmedEnd (behind ++ other)))) := by
    intro other
    rw [hcleaned other, ← opening.scheme_eq]
    simp
  refine ⟨base, front, behind, hsplit, hfront, fun other => ⟨?_, ?_⟩⟩
  · unfold parse
    simp only [String.toList_ofList, hscheme other, opening.special, opening.not_file,
      opening.skip_slashes, if_true, Bool.false_eq_true, if_false]
    exact hbase _
  · unfold writtenPath
    simp only [hscheme other, opening.skip_slashes,
      dropWhile_authority opening.authority_within opening.ending_ends]

end Opening

/-- Two addresses that differ at most in their segments and in what their queries and
fragments say. -/
structure SameFrame (left right : Url) : Prop where
  scheme : left.scheme = right.scheme
  username : left.username = right.username
  password : left.password = right.password
  host : left.host = right.host
  port : left.port = right.port
  query : left.query.isSome = right.query.isSome
  fragment : left.fragment.isSome = right.fragment.isSome

def segmentCount (url : Url) : Nat :=
  match url.path with
  | .segments names => names.length
  | .whole _ => 0

theorem sameFrame_withRest (base : Url) {left right : List Char} (path : List Char → Path)
    (hseparators : separators left = separators right) :
    SameFrame (base.withRest true left path) (base.withRest true right path) := by
  obtain ⟨hquery, hfragment⟩ := presence_withRest base path hseparators
  exact ⟨rfl, rfl, rfl, rfl, rfl, hquery, hfragment⟩

theorem segmentCount_withRest (base : Url) (text : List Char) :
    (base.withRest true text webPath).segmentCount = depth (writtenSegments text) := by
  rw [← length_resolve_nil, ← webSegments_eq_resolve]
  rfl

/-- Behind an opening, texts with the same separators are read as addresses of one frame,
with as many written segments; each keeps as many of them as its written segments go deep. -/
theorem Opening.parse_of_same_separators {text : List Char} (opening : Opening text)
    {left right : List Char} {url : Url} (hseparators : separators left = separators right)
    (hparse : parse (String.ofList (text ++ left)) = .ok url) :
    ∃ other, parse (String.ofList (text ++ right)) = .ok other ∧ SameFrame url other ∧
      (writtenPath (text ++ left)).length = (writtenPath (text ++ right)).length ∧
      url.segmentCount = depth (writtenPath (text ++ left)) ∧
      other.segmentCount = depth (writtenPath (text ++ right)) := by
  obtain ⟨base, front, behind, -, -, hread⟩ := opening.exists_parse_append
  have hbehind : separators (stripped (trimmedEnd (behind ++ left))) =
      separators (stripped (trimmedEnd (behind ++ right))) := by
    simp only [separators_stripped, separators_trimmedEnd, separators_append, hseparators]
  rw [(hread left).1] at hparse
  cases base with
  | error fault => cases hparse
  | ok base =>
      obtain rfl := Except.ok.inj hparse
      refine ⟨_, (hread right).1, sameFrame_withRest base webPath ?_, ?_, ?_, ?_⟩
      · rw [← List.singleton_append, separators_append, hbehind, ← separators_append]
        rfl
      · rw [(hread left).2, (hread right).2]
        exact length_writtenSegments hbehind
      · rw [(hread left).2, segmentCount_withRest]
      · rw [(hread right).2, segmentCount_withRest]

end Url

end Toolbench
