import Toolbench.Proofs.Template.Weaving
import Toolbench.Proofs.Url.Cleaning
import Toolbench.Proofs.Url.Depth
import Toolbench.Proofs.Url.Dots

/-!
# Segments of a filled template

The segments of a filled address are the runs of the template between its slashes, each
filled by itself. A run that holds no literal dots makes no segment of dots, whatever the
values are that fill it, as long as none of them is one.
-/

namespace Toolbench

namespace Request

open Template Text.Percent Url

/-- Images without separators leave the separators of a template as they are. -/
theorem separators_weave {image : List Char → List Char}
    (himage : ∀ name, ∀ c ∈ image name, endsAuthority true c = false) (pieces : List Piece) :
    separators (weave image pieces) = separators (weave (fun _ => ['x']) pieces) := by
  induction pieces with
  | nil =>
      rfl
  | cons piece rest ih =>
      cases piece with
      | char c =>
          simp only [weave]
          rw [← List.singleton_append, separators_append, ih, ← separators_append,
            List.singleton_append]
      | placeholder name =>
          simp only [weave]
          rw [separators_append, separators_eq_nil (himage name), ih]
          rfl

/-- Pieces with one more in front of the first run. -/
def consRun (piece : Piece) : List (List Piece) → List (List Piece)
  | first :: others => (piece :: first) :: others
  | [] => [[piece]]

/-- The runs of pieces between literal slashes. -/
def runs : List Piece → List (List Piece)
  | [] => [[]]
  | .char c :: rest =>
      if isSlash true c then [] :: runs rest else consRun (.char c) (runs rest)
  | .placeholder name :: rest => consRun (.placeholder name) (runs rest)

theorem runs_ne_nil (pieces : List Piece) : runs pieces ≠ [] := by
  cases pieces with
  | nil => simp [runs]
  | cons piece rest =>
      cases piece with
      | char c =>
          simp only [runs]
          split
          · simp
          · cases runs rest <;> simp [consRun]
      | placeholder name =>
          simp only [runs]
          cases runs rest <;> simp [consRun]

theorem rawSegments_append {image : List Char} (himage : ∀ c ∈ image, isSlash true c = false)
    {text first : List Char} {others : List (List Char)}
    (hsegments : rawSegments true text = first :: others) :
    rawSegments true (image ++ text) = (image ++ first) :: others := by
  induction image with
  | nil =>
      simpa using hsegments
  | cons c image ih =>
      have hrest := ih fun c hc => himage c (List.mem_cons_of_mem _ hc)
      exact rawSegments_cons (himage c List.mem_cons_self) hrest

theorem rawSegments_weave {image : List Char → List Char}
    (himage : ∀ name, ∀ c ∈ image name, isSlash true c = false) (pieces : List Piece) :
    rawSegments true (weave image pieces) = (runs pieces).map (weave image) := by
  induction pieces with
  | nil =>
      rfl
  | cons piece rest ih =>
      cases hruns : runs rest with
      | nil => exact absurd hruns (runs_ne_nil rest)
      | cons first others =>
          rw [hruns, List.map_cons] at ih
          cases piece with
          | char c =>
              cases hslash : isSlash true c with
              | true =>
                  simp only [weave, runs, hslash, if_true, hruns]
                  rw [rawSegments_slash hslash, ih]
                  rfl
              | false =>
                  simp only [weave, runs, hslash, Bool.false_eq_true, if_false, hruns, consRun]
                  rw [rawSegments_cons hslash ih]
                  rfl
          | placeholder name =>
              simp only [weave, runs, hruns, consRun]
              rw [rawSegments_append (himage name) ih]
              rfl

theorem mem_of_mem_runs {pieces run : List Piece} (hrun : run ∈ runs pieces) {piece : Piece}
    (hpiece : piece ∈ run) : piece ∈ pieces := by
  induction pieces generalizing run piece with
  | nil =>
      simp only [runs, List.mem_singleton] at hrun
      simp [hrun] at hpiece
  | cons head rest ih =>
      have hcons : ∀ run ∈ consRun head (runs rest), ∀ piece ∈ run, piece ∈ head :: rest := by
        intro run hrun piece hpiece
        cases hruns : runs rest with
        | nil => exact absurd hruns (runs_ne_nil rest)
        | cons first others =>
            rw [hruns] at hrun ih
            rcases List.mem_cons.mp hrun with rfl | hother
            · rcases List.mem_cons.mp hpiece with rfl | hfirst
              · exact List.mem_cons_self
              · exact List.mem_cons_of_mem _ (ih List.mem_cons_self hfirst)
            · exact List.mem_cons_of_mem _ (ih (List.mem_cons_of_mem _ hother) hpiece)
      cases head with
      | char c =>
          simp only [runs] at hrun
          split at hrun
          · rcases List.mem_cons.mp hrun with rfl | hrest
            · simp at hpiece
            · exact List.mem_cons_of_mem _ (ih hrest hpiece)
          · exact hcons run hrun piece hpiece
      | placeholder name =>
          exact hcons run hrun piece hpiece

theorem consRun_append (piece : Piece) {before : List (List Piece)} (hbefore : before ≠ [])
    (behind : List (List Piece)) :
    consRun piece (before ++ behind) = consRun piece before ++ behind := by
  cases before with
  | nil => exact absurd rfl hbefore
  | cons first others => rfl

theorem runs_append_slash (before : List Piece) {slash : Char} (hslash : isSlash true slash = true)
    (behind : List Piece) :
    runs (before ++ .char slash :: behind) = runs before ++ runs behind := by
  induction before with
  | nil =>
      simp [runs, hslash]
  | cons piece before ih =>
      cases piece with
      | char c =>
          simp only [List.cons_append, runs, ih]
          split
          · rfl
          · exact consRun_append _ (runs_ne_nil before) _
      | placeholder name =>
          simp only [List.cons_append, runs, ih]
          exact consRun_append _ (runs_ne_nil before) _

/-- Whether a piece leaves the path where it is. -/
def staysOnPath : Piece → Bool
  | .char c => !Url.endsPath c
  | .placeholder _ => true

/-- The pieces of a template up to where its path ends. -/
def pathPieces (pieces : List Piece) : List Piece :=
  pieces.takeWhile staysOnPath

/-- The characters that can make a segment one of dots, or a drive. -/
def isMark (c : Char) : Bool :=
  c = '.' || c = '%' || c = ':' || c = '|'

/-- The image of a name that the encoded value of it is. -/
def encodedValue (value : List Char → List Char) (name : List Char) : List Char :=
  encode isUnreserved (value name)

theorem pathPieces_append {front : List Char} (hfront : ∀ c ∈ front, Url.endsPath c = false)
    {e : Char} (he : Url.endsPath e = false) (pieces : List Piece) :
    pathPieces (front.map .char ++ .char e :: pieces) =
      front.map .char ++ .char e :: pathPieces pieces := by
  have hstays : ∀ piece ∈ front.map Piece.char, staysOnPath piece = true := by
    simpa [staysOnPath] using hfront
  have hends : staysOnPath (.char e) = true := by
    simp [staysOnPath, he]
  rw [pathPieces, List.takeWhile_append_of_pos hstays, List.takeWhile_cons_of_pos hends]
  rfl

/-- An encoded value brings nothing that separates, ends or is cleaned out. -/
theorem inert_encodedValue (value : List Char → List Char) (name : List Char) :
    ∀ c ∈ encodedValue value name, endsAuthority true c = false ∧ isSpaceOrControl c = false := by
  intro c hc
  rcases mem_encode_isUnreserved hc with hunreserved | rfl
  · have hlarge := toNat_of_isUnreserved hunreserved
    refine ⟨?_, by simpa [isSpaceOrControl] using hlarge⟩
    cases hends : endsAuthority true c with
    | false => rfl
    | true =>
        rcases (endsAuthority_iff c).mp hends with rfl | rfl | rfl | rfl <;>
          exact absurd hunreserved (by decide)
  · decide

theorem not_isSlash_of_endsAuthority {c : Char} (hends : endsAuthority true c = false) :
    isSlash true c = false := by
  simp only [endsAuthority, Bool.or_eq_false_iff] at hends
  exact hends.1.1

theorem not_endsPath_of_endsAuthority {c : Char} (hends : endsAuthority true c = false) :
    Url.endsPath c = false := by
  simpa using endsPath_eq_false_of_endsAuthority hends

theorem staysWithin_of_not_isSpaceOrControl {c : Char} (hspace : isSpaceOrControl c = false) :
    staysWithin c = true := by
  cases hstays : staysWithin c with
  | true => rfl
  | false =>
      simp only [staysWithin, Bool.not_eq_false', Bool.or_eq_true, decide_eq_true_eq] at hstays
      rcases hstays with (rfl | rfl) | rfl <;> exact absurd hspace (by decide)

/-- Pieces without literal marks, and with values that are no dots. -/
structure Calm (value : List Char → List Char) (pieces : List Piece) : Prop where
  chars : ∀ c, .char c ∈ pieces → isMark c = false
  values : ∀ name, .placeholder name ∈ pieces → value name ≠ ['.'] ∧ value name ≠ ['.', '.']

theorem Calm.subset {value : List Char → List Char} {pieces others : List Piece}
    (hcalm : Calm value pieces) (hsubset : ∀ piece ∈ others, piece ∈ pieces) :
    Calm value others :=
  ⟨fun c hc => hcalm.chars c (hsubset _ hc), fun name hname => hcalm.values name (hsubset _ hname)⟩

/-- A dot at the start of calm pieces is the start of a value that has more to it. -/
theorem Calm.dropDot?_weave {value : List Char → List Char} {pieces : List Piece}
    (hcalm : Calm value pieces) {rest : List Char}
    (hdot : dropDot? (weave (encodedValue value) pieces) = some rest) :
    ∃ more behind, more ≠ [] ∧ more ≠ ['.'] ∧
      rest = encode isUnreserved more ++ weave (encodedValue value) behind := by
  induction pieces with
  | nil =>
      simp [weave, dropDot?] at hdot
  | cons piece behind ih =>
      have hbehind : Calm value behind := hcalm.subset fun _ => List.mem_cons_of_mem _
      cases piece with
      | char c =>
          have hmark := hcalm.chars c List.mem_cons_self
          simp only [isMark, Bool.or_eq_false_iff, decide_eq_false_iff_not] at hmark
          rw [weave, dropDot?_cons hmark.1.1.1 hmark.1.1.2] at hdot
          cases hdot
      | placeholder name =>
          obtain ⟨hsingle, hdouble⟩ := hcalm.values name List.mem_cons_self
          rw [weave, encodedValue] at hdot
          cases hvalue : value name with
          | nil =>
              rw [hvalue] at hdot
              exact ih hbehind hdot
          | cons c more =>
              rw [hvalue] at hdot hsingle hdouble
              obtain ⟨rfl, rfl⟩ := dropDot?_encode hdot
              refine ⟨more, behind, ?_, ?_, rfl⟩
              · rintro rfl
                exact hsingle rfl
              · rintro rfl
                exact hdouble rfl

theorem Calm.not_isSingleDot {value : List Char → List Char} {pieces : List Piece}
    (hcalm : Calm value pieces) : isSingleDot (weave (encodedValue value) pieces) = false := by
  cases hdot : dropDot? (weave (encodedValue value) pieces) with
  | none => simp [isSingleDot, hdot]
  | some rest =>
      obtain ⟨more, behind, hmore, -, rfl⟩ := hcalm.dropDot?_weave hdot
      simp [isSingleDot, hdot, encode_eq_nil_iff, hmore]

theorem Calm.not_isDoubleDot {value : List Char → List Char} {pieces : List Piece}
    (hcalm : Calm value pieces) : isDoubleDot (weave (encodedValue value) pieces) = false := by
  cases hdot : dropDot? (weave (encodedValue value) pieces) with
  | none => simp [isDoubleDot, hdot]
  | some rest =>
      obtain ⟨more, behind, hmore, hdots, rfl⟩ := hcalm.dropDot?_weave hdot
      cases more with
      | nil => exact absurd rfl hmore
      | cons c more =>
          cases hsecond : dropDot? (encode isUnreserved (c :: more) ++
              weave (encodedValue value) behind) with
          | none => simp [isDoubleDot, hdot, hsecond]
          | some rest =>
              obtain ⟨rfl, rfl⟩ := dropDot?_encode hsecond
              have hrest : more ≠ [] := by
                rintro rfl
                exact hdots rfl
              simp [isDoubleDot, hdot, hsecond, encode_eq_nil_iff, hrest]

theorem Calm.not_mem_weave {value : List Char → List Char} {pieces : List Piece}
    (hcalm : Calm value pieces) {c : Char} (hc : c = ':' ∨ c = '|') :
    c ∉ weave (encodedValue value) pieces := by
  induction pieces with
  | nil =>
      simp [weave]
  | cons piece rest ih =>
      have hrest := ih (hcalm.subset fun _ => List.mem_cons_of_mem _)
      cases piece with
      | char d =>
          have hmark := hcalm.chars d List.mem_cons_self
          have hne : c ≠ d := by
            rintro rfl
            rcases hc with rfl | rfl <;> exact absurd hmark (by decide)
          simp [weave, hne, hrest]
      | placeholder name =>
          have himage : c ∉ encodedValue value name := by
            intro hmem
            rcases mem_encode_isUnreserved hmem with hunreserved | rfl
            · rcases hc with rfl | rfl <;> exact absurd hunreserved (by decide)
            · rcases hc with h | h <;> exact absurd h (by decide)
          simp [weave, himage, hrest]

theorem startsWithDrive_eq_false {text : List Char} (hcolon : ':' ∉ text) (hbar : '|' ∉ text) :
    startsWithDrive text = false := by
  unfold startsWithDrive isDrive
  split
  · rename_i letter mark htake
    have hmark : mark ∈ text := List.mem_of_mem_take (htake ▸ List.mem_cons_of_mem _ List.mem_cons_self)
    have hne : mark ≠ ':' ∧ mark ≠ '|' := by
      constructor
      · rintro rfl
        exact hcolon hmark
      · rintro rfl
        exact hbar hmark
    simp [hne.1, hne.2]
  · rfl

/-- Calm pieces make a segment that goes down by a name. -/
theorem Calm.stepOf_weave {value : List Char → List Char} {pieces : List Piece}
    (hcalm : Calm value pieces) :
    stepOf (weave (encodedValue value) pieces) = .descend false := by
  have hmark : ∀ c, c = ':' ∨ c = '|' →
      c ∉ (encoded staysInPath (weave (encodedValue value) pieces)).toList := by
    intro c hc hmem
    rw [encoded, String.toList_ofList] at hmem
    rcases mem_encode hmem with ⟨hwoven, -⟩ | hunreserved | rfl
    · exact hcalm.not_mem_weave hc hwoven
    · rcases hc with rfl | rfl <;> exact absurd hunreserved (by decide)
    · rcases hc with h | h <;> exact absurd h (by decide)
  simp only [stepOf, hcalm.not_isDoubleDot, hcalm.not_isSingleDot, Bool.false_eq_true, if_false,
    startsWithDrive_eq_false (hmark _ (Or.inl rfl)) (hmark _ (Or.inr rfl))]

theorem takeWhile_append_image {image : List Char} (himage : ∀ c ∈ image, Url.endsPath c = false)
    (text : List Char) :
    ((image ++ text).takeWhile fun c => !Url.endsPath c) =
      image ++ text.takeWhile fun c => !Url.endsPath c :=
  List.takeWhile_append_of_pos (by simpa using himage)

theorem path_weave {image : List Char → List Char}
    (himage : ∀ name, ∀ c ∈ image name, Url.endsPath c = false) (pieces : List Piece) :
    ((weave image pieces).takeWhile fun c => !Url.endsPath c) =
      weave image (pathPieces pieces) := by
  induction pieces with
  | nil =>
      rfl
  | cons piece rest ih =>
      cases piece with
      | char c =>
          cases hends : Url.endsPath c with
          | true => simp [pathPieces, weave, staysOnPath, hends]
          | false =>
              simp only [weave, List.takeWhile_cons, hends, Bool.not_false, if_true, ih]
              simp [pathPieces, weave, staysOnPath, hends]
      | placeholder name =>
          rw [weave, takeWhile_append_image (himage name), ih]
          simp [pathPieces, weave, List.takeWhile_cons, staysOnPath]

theorem any_endsPath_weave {image : List Char → List Char}
    (himage : ∀ name, ∀ c ∈ image name, Url.endsPath c = false) (pieces : List Piece) :
    (weave image pieces).any Url.endsPath = pieces.any fun piece => !staysOnPath piece := by
  induction pieces with
  | nil =>
      rfl
  | cons piece rest ih =>
      cases piece with
      | char c => simp [weave, staysOnPath, ih]
      | placeholder name =>
          have hnone : (image name).any Url.endsPath = false := by
            simpa using himage name
          simp [weave, staysOnPath, ih, hnone]

theorem stripped_weave {image : List Char → List Char}
    (himage : ∀ name, ∀ c ∈ image name, staysWithin c = true) (pieces : List Piece) :
    ∃ kept : List Piece, (∀ piece ∈ kept, piece ∈ pieces) ∧
      stripped (weave image pieces) = weave image kept := by
  induction pieces with
  | nil =>
      exact ⟨[], by simp, rfl⟩
  | cons piece rest ih =>
      obtain ⟨kept, hkept, hrest⟩ := ih
      have hmem : ∀ piece' ∈ kept, piece' ∈ piece :: rest := fun other hother =>
        List.mem_cons_of_mem _ (hkept other hother)
      have hcons : ∀ other ∈ piece :: kept, other ∈ piece :: rest := by
        intro other hother
        rcases List.mem_cons.mp hother with rfl | hother
        · exact List.mem_cons_self
        · exact hmem other hother
      cases piece with
      | char c =>
          cases hstays : staysWithin c with
          | true =>
              refine ⟨.char c :: kept, hcons, ?_⟩
              rw [weave, stripped_cons_of_stays hstays, hrest, weave]
          | false =>
              refine ⟨kept, hmem, ?_⟩
              rw [weave, stripped_cons_of_goes hstays, hrest]
      | placeholder name =>
          refine ⟨.placeholder name :: kept, hcons, ?_⟩
          have himage' : (image name).filter staysWithin = image name :=
            List.filter_eq_self.mpr (himage name)
          rw [weave, stripped, List.filter_append, himage', weave, ← hrest]
          rfl

theorem trimmedEnd_append {image text : List Char}
    (himage : ∀ c ∈ image, isSpaceOrControl c = false) :
    trimmedEnd (image ++ text) = image ++ trimmedEnd text := by
  induction image with
  | nil =>
      rfl
  | cons c image ih =>
      rw [List.cons_append, trimmedEnd_cons, ih fun c hc => himage c (List.mem_cons_of_mem _ hc),
        himage c List.mem_cons_self, Bool.and_false]
      rfl

theorem trimmedEnd_weave {image : List Char → List Char}
    (himage : ∀ name, ∀ c ∈ image name, isSpaceOrControl c = false) (pieces : List Piece) :
    ∃ kept : List Piece, (∀ piece ∈ kept, piece ∈ pieces) ∧
      trimmedEnd (weave image pieces) = weave image kept := by
  induction pieces with
  | nil =>
      exact ⟨[], by simp, rfl⟩
  | cons piece rest ih =>
      obtain ⟨kept, hkept, hrest⟩ := ih
      have hcons : ∀ other ∈ piece :: kept, other ∈ piece :: rest := by
        intro other hother
        rcases List.mem_cons.mp hother with rfl | hother
        · exact List.mem_cons_self
        · exact List.mem_cons_of_mem _ (hkept other hother)
      cases piece with
      | char c =>
          rw [weave, trimmedEnd_cons, hrest]
          split
          · exact ⟨[], by simp, rfl⟩
          · exact ⟨.char c :: kept, hcons, rfl⟩
      | placeholder name =>
          refine ⟨.placeholder name :: kept, hcons, ?_⟩
          rw [weave, trimmedEnd_append (himage name), hrest, weave]

/-- The letter x for every name. -/
def sampleValue : List Char → List Char :=
  fun _ => ['x']

theorem encodedValue_sampleValue : encodedValue sampleValue = fun _ => ['x'] :=
  rfl

/-- A run that does what its sample does, also cleaned: it holds no placeholder, or it is
calm. -/
def Settled (value : List Char → List Char) (run : List Piece) : Prop :=
  (∀ name, .placeholder name ∉ run) ∨ Calm value run

theorem Calm.sample {value : List Char → List Char} {run : List Piece} (hcalm : Calm value run) :
    Calm sampleValue run :=
  ⟨hcalm.chars, fun _ _ => by simp [sampleValue]⟩

theorem Calm.stepOf_stripped {value : List Char → List Char} {run : List Piece}
    (hcalm : Calm value run) :
    stepOf (stripped (weave (encodedValue value) run)) = .descend false := by
  have himage : ∀ name, ∀ c ∈ encodedValue value name, staysWithin c = true := fun name c hc =>
    staysWithin_of_not_isSpaceOrControl (inert_encodedValue value name c hc).2
  obtain ⟨kept, hkept, heq⟩ := stripped_weave himage run
  rw [heq]
  exact (hcalm.subset hkept).stepOf_weave

theorem Calm.stepOf_trimmed {value : List Char → List Char} {run : List Piece}
    (hcalm : Calm value run) :
    stepOf (stripped (trimmedEnd (weave (encodedValue value) run))) = .descend false := by
  have himage : ∀ name, ∀ c ∈ encodedValue value name, isSpaceOrControl c = false :=
    fun name c hc => (inert_encodedValue value name c hc).2
  obtain ⟨kept, hkept, heq⟩ := trimmedEnd_weave himage run
  rw [heq]
  exact (hcalm.subset hkept).stepOf_stripped

theorem Settled.stepOf_eq {value : List Char → List Char} {run : List Piece}
    (hsettled : Settled value run) :
    stepOf (stripped (weave (encodedValue value) run)) =
        stepOf (stripped (weave (encodedValue sampleValue) run)) ∧
      stepOf (stripped (trimmedEnd (weave (encodedValue value) run))) =
        stepOf (stripped (trimmedEnd (weave (encodedValue sampleValue) run))) := by
  rcases hsettled with hnone | hcalm
  · rw [weave_congr_of_no_placeholder _ (encodedValue sampleValue) hnone]
    exact ⟨rfl, rfl⟩
  · rw [hcalm.stepOf_stripped, hcalm.sample.stepOf_stripped, hcalm.stepOf_trimmed,
      hcalm.sample.stepOf_trimmed]
    exact ⟨rfl, rfl⟩

theorem map_modifyLast_congr {α β γ : Type} {left right : α → β} {change : β → β} {result : β → γ}
    {items : List α} (hplain : ∀ item ∈ items, result (left item) = result (right item))
    (hlast : ∀ item ∈ items, result (change (left item)) = result (change (right item))) :
    (modifyLast change (items.map left)).map result =
      (modifyLast change (items.map right)).map result := by
  induction items with
  | nil =>
      rfl
  | cons item rest ih =>
      cases rest with
      | nil => simpa [modifyLast] using hlast
      | cons next rest =>
          have hrest := ih (fun item hitem => hplain item (List.mem_cons_of_mem _ hitem))
            fun item hitem => hlast item (List.mem_cons_of_mem _ hitem)
          simp only [List.map_cons, modifyLast, List.cons.injEq] at hrest ⊢
          exact ⟨hplain item List.mem_cons_self, hrest⟩

/-- Where every run of the path is settled, the written segments make the steps of the
sample. -/
theorem map_stepOf_writtenSegments {value : List Char → List Char} {pieces : List Piece}
    {e : Char} (he : endsAuthority true e = true)
    (hsettled : isSlash true e = true → ∀ run ∈ runs (pathPieces pieces), Settled value run) :
    (writtenSegments (e :: stripped (trimmedEnd (weave (encodedValue value) pieces)))).map stepOf =
      (writtenSegments
        (e :: stripped (trimmedEnd (weave (encodedValue sampleValue) pieces)))).map stepOf := by
  cases hslash : isSlash true e with
  | false =>
      have hends : Url.endsPath e = true := by
        simpa [endsAuthority, hslash, Url.endsPath] using he
      simp [writtenSegments, hends]
  | true =>
      have hruns := hsettled hslash
      have hpath : ∀ value : List Char → List Char, ∀ name, ∀ c ∈ encodedValue value name,
          Url.endsPath c = false := fun value name c hc =>
        not_endsPath_of_endsAuthority (inert_encodedValue value name c hc).1
      have hslashes : ∀ value : List Char → List Char, ∀ name, ∀ c ∈ encodedValue value name,
          isSlash true c = false := fun value name c hc =>
        not_isSlash_of_endsAuthority (inert_encodedValue value name c hc).1
      rw [writtenSegments_cleaned hslash, writtenSegments_cleaned hslash,
        any_endsPath_weave (hpath value), any_endsPath_weave (hpath sampleValue)]
      cases hany : pieces.any fun piece => !staysOnPath piece with
      | true =>
          simp only [if_true, path_weave (hpath _), rawSegments_weave (hslashes _), List.map_map]
          exact List.map_congr_left fun run hrun => (hruns run hrun).stepOf_eq.1
      | false =>
          have hwhole : pathPieces pieces = pieces := by
            refine takeWhile_eq_self ?_
            simpa using hany
          rw [hwhole] at hruns
          simp only [Bool.false_eq_true, if_false, rawSegments_weave (hslashes _), List.map_map]
          exact map_modifyLast_congr (fun run hrun => (hruns run hrun).stepOf_eq.1)
            fun run hrun => (hruns run hrun).stepOf_eq.2

end Request

end Toolbench
