import Toolbench.Proofs.Template.CommandLine

/-!
# Quotes that group

Read from its start, a command line is a run of characters outside of quotes and of quotations,
which may end in a quote that nothing closes. Each part adds to the word that is open and no more,
so that a gap parts what is split before it from what is split behind it, and words keep every
character but the grouping quotes and the blanks outside of quotes.
-/

namespace Toolbench

namespace CommandLine

/-- A character outside of quotes that is no quote itself, or a quotation. -/
inductive Part where
  | bare (c : Char) (isQuote_eq_false : isQuote c = false)
  | quoted (quotation : Quotation)

namespace Part

/-- The characters of a part as it is written. -/
def spelling : Part → List Char
  | bare c _ => [c]
  | quoted quotation => quotation.spelling

/-- What words keep of a part: the text between its quotes, or its character if that is no
blank. -/
def content : Part → List Char
  | bare c _ => if Text.isBlank c then [] else [c]
  | quoted quotation => quotation.text

end Part

/-- A quotation as it is written when nothing closes it. -/
def Quotation.opening (quotation : Quotation) : List Char :=
  quotation.quote :: quotation.text

/-! ## Reading parts -/

theorem quotation_of_mem {quote : Char} {rest : List Char} (hquote : isQuote quote = true)
    (hmem : quote ∈ rest) :
    ∃ (quotation : Quotation) (behind : List Char),
      quote :: rest = quotation.spelling ++ behind ∧ behind.length < rest.length := by
  obtain ⟨text, behind, rfl, hnot⟩ := List.eq_append_cons_of_mem hmem
  refine ⟨⟨quote, text, hquote, hnot⟩, behind, ?_, ?_⟩
  · simp [Quotation.spelling]
  · rw [List.length_append, List.length_cons]
    omega

/-- A text that is made of parts, up to its end or up to a quote that nothing closes. -/
inductive Parted : List Char → Prop where
  | closed (parts : List Part) : Parted (parts.flatMap Part.spelling)
  | opened (parts : List Part) (quotation : Quotation) :
      Parted (parts.flatMap Part.spelling ++ quotation.opening)

theorem Parted.cons (part : Part) {rest : List Char} (hrest : Parted rest) :
    Parted (part.spelling ++ rest) := by
  cases hrest with
  | closed parts => exact .closed (part :: parts)
  | opened parts quotation =>
      rw [← List.append_assoc, ← List.flatMap_cons]
      exact .opened (part :: parts) quotation

theorem parted (line : List Char) : Parted line := by
  cases line with
  | nil => exact .closed []
  | cons c rest =>
      -- A quotation is as long as it happens to be, so that the recursion is on the length.
      by_cases hquote : isQuote c = true
      · by_cases hmem : c ∈ rest
        · obtain ⟨quotation, behind, hline, hshorter⟩ := quotation_of_mem hquote hmem
          rw [hline]
          exact .cons (.quoted quotation) (parted behind)
        · exact .opened [] ⟨c, rest, hquote, hmem⟩
      · exact .cons (.bare c (Bool.not_eq_true _ ▸ hquote)) (parted rest)
termination_by line.length

/-! ## Splitting behind parts -/

theorem close_append (word : Option (List Char)) (words : List (List Char)) :
    close word words = close word [] ++ words := by
  cases word <;> rfl

theorem flatten_close (word : Option (List Char)) : (close word []).flatten = word.getD [] := by
  cases word with
  | none => rfl
  | some word => exact List.flatten_singleton

/-- The words that a text closes and the word that it leaves open, given the word that is open
before it. -/
structure Reaches (opened : Option (List Char)) (text : List Char) (closed : List (List Char))
    (next : Option (List Char)) : Prop where
  splitFrom_append : ∀ rest,
    splitFrom none opened (text ++ rest) = (splitFrom none next rest).map (closed ++ ·)

theorem Reaches.nil (opened : Option (List Char)) : Reaches opened [] [] opened where
  splitFrom_append rest := by
    rw [List.nil_append]
    cases splitFrom none opened rest <;> rfl

theorem Reaches.append {opened middle next : Option (List Char)} {first second : List Char}
    {earlier later : List (List Char)} (hfirst : Reaches opened first earlier middle)
    (hsecond : Reaches middle second later next) :
    Reaches opened (first ++ second) (earlier ++ later) next where
  splitFrom_append rest := by
    rw [List.append_assoc, hfirst.splitFrom_append, hsecond.splitFrom_append]
    cases splitFrom none next rest with
    | error quote => rfl
    | ok words => exact congrArg Except.ok (List.append_assoc _ _ _).symm

/-- A part adds its content to the word that is open, and closes it if it is a blank. -/
theorem Part.reaches (part : Part) (opened : Option (List Char)) :
    ∃ closed next, Reaches opened part.spelling closed next ∧
      closed.flatten ++ next.getD [] = opened.getD [] ++ part.content := by
  cases part with
  | quoted quotation =>
      refine ⟨[], some (opened.getD [] ++ quotation.text), ⟨fun rest => ?_⟩, rfl⟩
      rw [spelling, splitFrom_spelling]
      cases splitFrom none (some (opened.getD [] ++ quotation.text)) rest <;> rfl
  | bare c hquote =>
      cases hblank : Text.isBlank c with
      | true =>
          refine ⟨close opened [], none, ⟨fun rest => ?_⟩, ?_⟩
          · rw [spelling, List.singleton_append, splitFrom]
            simp only [hquote, hblank, Bool.false_eq_true, if_false, if_true, ← close_append]
          · simp [content, hblank, flatten_close]
      | false =>
          refine ⟨[], some (opened.getD [] ++ [c]), ⟨fun rest => ?_⟩, ?_⟩
          · rw [spelling, List.singleton_append, splitFrom]
            simp only [hquote, hblank, Bool.false_eq_true, if_false]
            cases splitFrom none (some (opened.getD [] ++ [c])) rest <;> rfl
          · simp [content, hblank]

theorem reaches_parts (parts : List Part) (opened : Option (List Char)) :
    ∃ closed next, Reaches opened (parts.flatMap Part.spelling) closed next ∧
      closed.flatten ++ next.getD [] = opened.getD [] ++ parts.flatMap Part.content := by
  induction parts generalizing opened with
  | nil => exact ⟨[], opened, .nil opened, by simp⟩
  | cons part parts ih =>
      obtain ⟨earlier, middle, hpart, hfirst⟩ := part.reaches opened
      obtain ⟨later, next, hparts, hrest⟩ := ih middle
      refine ⟨earlier ++ later, next, hpart.append hparts, ?_⟩
      calc (earlier ++ later).flatten ++ next.getD []
          = earlier.flatten ++ (middle.getD [] ++ parts.flatMap Part.content) := by
            rw [List.flatten_append, List.append_assoc, hrest]
        _ = opened.getD [] ++ (part :: parts).flatMap Part.content := by
            rw [← List.append_assoc, hfirst, List.append_assoc, List.flatMap_cons]

theorem Reaches.splitFrom_eq {opened next : Option (List Char)} {text : List Char}
    {closed : List (List Char)} (h : Reaches opened text closed next) :
    splitFrom none opened text = .ok (closed ++ close next []) := by
  have htext := h.splitFrom_append []
  rwa [List.append_nil] at htext

/-- A text that is split as a whole leaves what is behind a gap to be split on its own. -/
theorem Reaches.splitFrom_gap {opened next : Option (List Char)} {text gap : List Char}
    {closed : List (List Char)} (h : Reaches opened text closed next) (hgap : IsGap gap)
    (rest : List Char) :
    splitFrom none opened (text ++ gap ++ rest) =
      (splitFrom none none rest).map ((closed ++ close next []) ++ ·) := by
  rw [List.append_assoc, h.splitFrom_append, hgap.splitFrom_append]
  cases splitFrom none none rest with
  | error quote => rfl
  | ok words =>
      have hwords : closed ++ close next words = closed ++ close next [] ++ words := by
        rw [close_append, List.append_assoc]
      exact congrArg Except.ok hwords

theorem splitFrom_unclosed {quote : Char} {text : List Char} (hquote : quote ∉ text)
    (word : Option (List Char)) : splitFrom (some quote) word text = .error quote := by
  induction text generalizing word with
  | nil => rfl
  | cons c text ih =>
      have htext : quote ∉ text := fun hmem => hquote (List.mem_cons_of_mem c hmem)
      have hother : ¬ c = quote := fun hsame => hquote (hsame ▸ List.mem_cons_self)
      rw [splitFrom]
      simp only [if_neg hother]
      exact ih htext _

theorem Quotation.splitFrom_opening (quotation : Quotation) (opened : Option (List Char)) :
    splitFrom none opened quotation.opening = .error quotation.quote := by
  rw [opening, splitFrom]
  simp only [quotation.isQuote_quote, if_true]
  exact splitFrom_unclosed quotation.quote_notMem _

/-! ## Splitting command lines -/

theorem splitFrom_parts (parts : List Part) :
    ∃ words, splitFrom none none (parts.flatMap Part.spelling) = .ok words ∧
      words.flatten = parts.flatMap Part.content := by
  obtain ⟨closed, next, hreaches, hcontent⟩ := reaches_parts parts none
  refine ⟨_, hreaches.splitFrom_eq, ?_⟩
  rw [List.flatten_append, flatten_close, hcontent, Option.getD_none, List.nil_append]

theorem splitFrom_parts_opening (parts : List Part) (quotation : Quotation) :
    splitFrom none none (parts.flatMap Part.spelling ++ quotation.opening) =
      .error quotation.quote := by
  obtain ⟨closed, next, hreaches, -⟩ := reaches_parts parts none
  rw [hreaches.splitFrom_append, quotation.splitFrom_opening]
  rfl

theorem splitFrom_eq_ok_iff (line : List Char) :
    (∃ words, splitFrom none none line = .ok words) ↔
      ∃ parts : List Part, line = parts.flatMap Part.spelling := by
  constructor
  · rintro ⟨words, hwords⟩
    cases parted line with
    | closed parts => exact ⟨parts, rfl⟩
    | opened parts quotation =>
        rw [splitFrom_parts_opening] at hwords
        cases hwords
  · rintro ⟨parts, rfl⟩
    obtain ⟨words, hwords, -⟩ := splitFrom_parts parts
    exact ⟨words, hwords⟩

theorem splitFrom_eq_error_iff (line : List Char) (quote : Char) :
    splitFrom none none line = .error quote ↔
      ∃ (parts : List Part) (quotation : Quotation), quotation.quote = quote ∧
        line = parts.flatMap Part.spelling ++ quotation.opening := by
  constructor
  · intro herror
    cases parted line with
    | closed parts =>
        obtain ⟨words, hwords, -⟩ := splitFrom_parts parts
        rw [hwords] at herror
        cases herror
    | opened parts quotation =>
        rw [splitFrom_parts_opening] at herror
        exact ⟨parts, quotation, Except.error.inj herror, rfl⟩
  · rintro ⟨parts, quotation, rfl, rfl⟩
    exact splitFrom_parts_opening parts quotation

theorem split_eq_ok_iff (command : String) (words : List String) :
    split command = .ok words ↔
      splitFrom none none command.toList = .ok (words.map String.toList) := by
  unfold split
  cases splitFrom none none command.toList with
  | error quote => simp
  | ok read =>
      simp only [Except.ok.injEq]
      constructor
      · rintro rfl
        simp [Function.comp_def]
      · rintro rfl
        simp [Function.comp_def]

theorem split_eq_error_iff (command : String) (error : OpenQuote) :
    split command = .error error ↔
      error.command = command ∧ splitFrom none none command.toList = .error error.quote := by
  obtain ⟨quote, line⟩ := error
  unfold split
  cases splitFrom none none command.toList with
  | error other => simp [eq_comm, and_comm]
  | ok read => simp

theorem split_append_gap {first gap : String} {words : List String}
    (hfirst : split first = .ok words) (hgap : IsGap gap.toList) (rest : String) :
    (∀ others, split rest = .ok others → split (first ++ gap ++ rest) = .ok (words ++ others)) ∧
      ∀ quote, split rest = .error ⟨quote, rest⟩ →
        split (first ++ gap ++ rest) = .error ⟨quote, first ++ gap ++ rest⟩ := by
  obtain ⟨parts, hparts⟩ := (splitFrom_eq_ok_iff first.toList).mp
    ⟨_, (split_eq_ok_iff first words).mp hfirst⟩
  obtain ⟨closed, next, hreaches, -⟩ := reaches_parts parts none
  rw [← hparts] at hreaches
  have hwords : closed ++ close next [] = words.map String.toList := by
    have hread := (split_eq_ok_iff first words).mp hfirst
    rwa [hreaches.splitFrom_eq, Except.ok.injEq] at hread
  have hline : splitFrom none none (first ++ gap ++ rest).toList =
      (splitFrom none none rest.toList).map (words.map String.toList ++ ·) := by
    rw [String.toList_append, String.toList_append, hreaches.splitFrom_gap hgap, hwords]
  constructor
  · intro others hothers
    rw [split_eq_ok_iff] at hothers ⊢
    rw [hline, hothers, List.map_append]
    rfl
  · intro quote hopen
    rw [split_eq_error_iff] at hopen ⊢
    rw [hline, hopen.2]
    exact ⟨rfl, rfl⟩

theorem flatMap_toList_of_split {command : String} {words : List String} {parts : List Part}
    (hwords : split command = .ok words)
    (hcommand : command.toList = parts.flatMap Part.spelling) :
    words.flatMap String.toList = parts.flatMap Part.content := by
  obtain ⟨read, hread, hcontent⟩ := splitFrom_parts parts
  rw [split_eq_ok_iff, hcommand, hread, Except.ok.injEq] at hwords
  rw [List.flatMap_def, ← hwords, hcontent]

/-- What stands before a gap and what stands behind it are split apart. A command is refused
exactly if its parts lead to a quote that nothing closes; else its words are, one behind the
other, the command without the quotes of its quotations and without the blanks outside of them. -/
theorem split_lossless :
    (∀ (first gap rest : String) (words : List String),
      split first = .ok words → IsGap gap.toList →
      ((∃ all, split (first ++ gap ++ rest) = .ok all) ↔ ∃ others, split rest = .ok others) ∧
      ∀ others, split rest = .ok others →
        split (first ++ gap ++ rest) = .ok (words ++ others)) ∧
    (∀ (command : String) (error : OpenQuote),
      split command = .error error ↔
        error.command = command ∧
          ∃ (parts : List Part) (quotation : Quotation), quotation.quote = error.quote ∧
            command.toList = parts.flatMap Part.spelling ++ quotation.opening) ∧
    (∀ command : String, (∃ words, split command = .ok words) ↔
      ∃ parts : List Part, command.toList = parts.flatMap Part.spelling) ∧
    ∀ (command : String) (words : List String) (parts : List Part),
      split command = .ok words → command.toList = parts.flatMap Part.spelling →
      words.flatMap String.toList = parts.flatMap Part.content := by
  refine ⟨?_, ?_, ?_, ?_⟩
  · intro first gap rest words hfirst hgap
    obtain ⟨hclosed, hopen⟩ := split_append_gap hfirst hgap rest
    refine ⟨⟨?_, ?_⟩, hclosed⟩
    · rintro ⟨all, hall⟩
      cases hrest : split rest with
      | ok others => exact ⟨others, rfl⟩
      | error error =>
          obtain ⟨hcommand, -⟩ := (split_eq_error_iff rest error).mp hrest
          obtain ⟨quote, _⟩ := error
          subst hcommand
          rw [hopen quote hrest] at hall
          cases hall
    · rintro ⟨others, hothers⟩
      exact ⟨_, hclosed others hothers⟩
  · intro command error
    rw [split_eq_error_iff, splitFrom_eq_error_iff]
  · intro command
    rw [← splitFrom_eq_ok_iff]
    constructor
    · rintro ⟨words, hwords⟩
      exact ⟨_, (split_eq_ok_iff command words).mp hwords⟩
    · rintro ⟨read, hread⟩
      refine ⟨read.map String.ofList, (split_eq_ok_iff command _).mpr ?_⟩
      simpa [Function.comp_def] using hread
  · intro command words parts
    exact flatMap_toList_of_split

/-- The parts of a line with a word that is quoted in part, a wide gap, and an apostrophe between
quotes of the other kind. -/
def sampleParts : List Part :=
  [.bare 's' rfl, .bare 'a' rfl, .bare 'y' rfl, .bare ' ' rfl, .bare 'a' rfl,
    .quoted ⟨'\'', " b".toList, rfl, by decide⟩, .bare '\u2003' rfl, .bare '\t' rfl,
    .quoted ⟨'"', "it's".toList, rfl, by decide⟩]

/-- The line is split at its gap, and its words lack nothing but quotes and blanks. -/
theorem split_lossless_marks :
    split "say a' b'\u2003\t\"it's\"" = .ok ["say", "a b", "it's"] ∧
      ["say", "a b", "it's"].flatMap String.toList = "saya bit's".toList := by
  have hgap : IsGap "\u2003\t".toList :=
    ⟨List.cons_ne_nil _ _, List.all_eq_true.mp rfl⟩
  have hfirst : split "say a' b'" = .ok ["say", "a b"] := by
    rfl
  have hrest : split "\"it's\"" = .ok ["it's"] := by
    rfl
  have hsplit := (split_lossless.1 "say a' b'" "\u2003\t" "\"it's\"" _ hfirst hgap).2 _ hrest
  have hcontent := split_lossless.2.2.2 _ _ sampleParts hsplit rfl
  exact ⟨hsplit, hcontent.trans rfl⟩

end CommandLine

end Toolbench
