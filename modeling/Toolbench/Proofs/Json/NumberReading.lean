import Toolbench.Json.Parser
import Toolbench.Proofs.Decimal.Digits

/-!
# Reading numbers

What a number is read as depends on its text only, not on what follows it, and all of the text is
read. An integer of 64 bits is read as it was written.
-/

namespace Toolbench

open Decimal (digitChars)

namespace Json

/-- Whether a text may stand behind a number without becoming part of it. -/
def endsNumber (rest : List Char) : Bool :=
  rest.head?.all fun c => !isNumeral c

theorem endsNumber_cons {c : Char} {rest : List Char} (hrest : endsNumber (c :: rest)) :
    c.isDigit = false ∧ c ≠ '.' ∧ c ≠ 'e' ∧ c ≠ 'E' := by
  have hc : isNumeral c = false := by
    simpa [endsNumber] using hrest
  simp only [isNumeral, Bool.or_eq_false_iff, List.contains_cons, List.contains_nil,
    Bool.or_false, beq_eq_false_iff_ne] at hc
  exact ⟨hc.1, hc.2.2.2.1, hc.2.2.2.2.1, hc.2.2.2.2.2⟩

theorem spanDigits_append {digits : List Char} (hdigits : digits.all Char.isDigit)
    {rest : List Char} (hrest : rest.head?.all fun c => !c.isDigit) :
    spanDigits (digits ++ rest) = (digits, rest) := by
  induction digits with
  | nil =>
      cases rest with
      | nil => rfl
      | cons c rest =>
          have hc : c.isDigit = false := by
            simpa using hrest
          simp [spanDigits, hc]
  | cons c digits ih =>
      rw [List.all_cons, Bool.and_eq_true] at hdigits
      rw [List.cons_append, spanDigits, if_pos hdigits.1, ih hdigits.2]

/-- A reader reads the whole of a text, as the same number whatever follows. -/
def ReadsWhole (read : List Char → Except Fault (Number × List Char)) (text : List Char) : Prop :=
  ∃ value? : Option Number, ∀ rest, endsNumber rest →
    (read (text ++ rest)).toOption = value?.map fun value => (value, rest)

theorem head_not_digit {rest : List Char} (hrest : endsNumber rest) :
    rest.head?.all fun c => !c.isDigit := by
  cases rest with
  | nil => rfl
  | cons c rest => simp [(endsNumber_cons hrest).1]

theorem isDigit_head {c : Char} {digits : List Char} (hdigits : isDigits (c :: digits)) :
    c.isDigit := by
  simp only [isDigits, List.all_cons, Bool.and_eq_true] at hdigits
  exact hdigits.2.1

theorem all_of_isDigits {digits : List Char} (hdigits : isDigits digits) :
    digits.all Char.isDigit := by
  simp only [isDigits, Bool.and_eq_true] at hdigits
  exact hdigits.2

/-! ## Exponents -/

theorem readScaled_toOption (positive : Bool) (digits : Nat) (exponent : Int)
    (rest : List Char) : (readScaled positive digits exponent rest).toOption =
      ((Binary64.scaled? digits exponent).map (signed positive)).map
        fun value => (value, rest) := by
  unfold readScaled
  cases Binary64.scaled? digits exponent <;> rfl

/-- Whether the exponent that a text spells is positive, and the text behind its sign. -/
def splitSign : List Char → Bool × List Char
  | '+' :: rest => (true, rest)
  | '-' :: rest => (false, rest)
  | text => (true, text)

/-- Reads the digits of an exponent behind its sign. -/
def readPower (positive up : Bool) (digits : Nat) (start : Int) (run rest : List Char) :
    Except Fault (Number × List Char) :=
  match takeExponent 0 run with
  | (some exponent, _) =>
      let exponent : Int := if up then exponent else -exponent
      readScaled positive digits (clampExponent (start + exponent)) rest
  | (none, left) =>
      if digits != 0 && up then .error (.before .numberOutOfRange (left ++ rest))
      else .ok (signed positive (Binary64.zero false), rest)

theorem readExponent_eq (positive : Bool) (digits : Nat) (start : Int) (text : List Char) :
    readExponent positive digits start text =
      match (splitSign text).2 with
      | [] => .error (.before .endInValue [])
      | c :: rest =>
          if c.isDigit then
            readPower positive (splitSign text).1 digits start (spanDigits (c :: rest)).1
              (spanDigits (c :: rest)).2
          else .error ⟨.invalidNumber, c :: rest, 1⟩ :=
  rfl

theorem readPower_toOption (positive up : Bool) (digits : Nat) (start : Int) (run : List Char) :
    ∃ value? : Option Number, ∀ rest,
      (readPower positive up digits start run rest).toOption =
        value?.map fun value => (value, rest) := by
  unfold readPower
  split
  · exact ⟨_, fun rest => readScaled_toOption positive digits _ rest⟩
  · split
    · exact ⟨none, fun rest => rfl⟩
    · exact ⟨some _, fun rest => rfl⟩

theorem splitSign_of_isDigits {run : List Char} (hrun : isDigits run) (rest : List Char) :
    splitSign (run ++ rest) = (true, run ++ rest) := by
  cases run with
  | nil => cases hrun
  | cons c run =>
      have hc := isDigit_head hrun
      unfold splitSign
      split
      · rename_i hplus
        exact absurd (List.cons_eq_cons.mp hplus).1 (Decimal.ne_of_isDigit hc '+' rfl)
      · rename_i hminus
        exact absurd (List.cons_eq_cons.mp hminus).1 (Decimal.ne_of_isDigit hc '-' rfl)
      · rfl

theorem readExponent_of_splitSign {positive up : Bool} {digits : Nat} {start : Int}
    {text run rest : List Char} (hsign : splitSign text = (up, run ++ rest))
    (hrun : isDigits run) (hrest : endsNumber rest) :
    readExponent positive digits start text = readPower positive up digits start run rest := by
  have hspan := spanDigits_append (all_of_isDigits hrun) (head_not_digit hrest)
  rw [readExponent_eq, hsign]
  cases run with
  | nil => cases hrun
  | cons c run =>
      rw [List.cons_append] at hspan
      simp only [List.cons_append, isDigit_head hrun, if_true, hspan]

theorem readsWhole_readExponent (positive : Bool) (digits : Nat) (start : Int) {letter : Char}
    {exponent : List Char} (hexponent : IsExponent (letter :: exponent)) :
    ReadsWhole (readExponent positive digits start) exponent := by
  have hbehind : ∃ (up : Bool) (run : List Char), isDigits run ∧
      ∀ rest, splitSign (exponent ++ rest) = (up, run ++ rest) := by
    cases hexponent with
    | plain hletter hdigits => exact ⟨true, exponent, hdigits, splitSign_of_isDigits hdigits⟩
    | signed hletter hsign hdigits =>
        rcases hsign with rfl | rfl
        · exact ⟨true, _, hdigits, fun rest => rfl⟩
        · exact ⟨false, _, hdigits, fun rest => rfl⟩
  obtain ⟨up, run, hrun, hsign⟩ := hbehind
  obtain ⟨value?, hvalue⟩ := readPower_toOption positive up digits start run
  refine ⟨value?, fun rest hrest => ?_⟩
  rw [readExponent_of_splitSign (hsign rest) hrun hrest, hvalue]

theorem readsWhole_readExponentOrEnd (positive : Bool) (digits : Nat) (start : Int)
    {exponent : List Char} (hexponent : IsExponent exponent) :
    ReadsWhole (readExponentOrEnd positive digits start) exponent := by
  have hletter : ∀ {letter : Char} {power : List Char}, letter = 'e' ∨ letter = 'E' →
      IsExponent (letter :: power) →
      ReadsWhole (readExponentOrEnd positive digits start) (letter :: power) := by
    intro letter power hletter hpower
    obtain ⟨value?, hvalue⟩ := readsWhole_readExponent positive digits start hpower
    rcases hletter with rfl | rfl <;> exact ⟨value?, hvalue⟩
  cases hexponent with
  | none =>
      refine ⟨(Binary64.scaled? digits start).map (signed positive), fun rest hrest => ?_⟩
      have hend : readExponentOrEnd positive digits start rest =
          readScaled positive digits start rest := by
        unfold readExponentOrEnd
        split
        · exact absurd rfl (endsNumber_cons hrest).2.2.1
        · exact absurd rfl (endsNumber_cons hrest).2.2.2
        · rfl
      rw [List.nil_append, hend, readScaled_toOption]
  | plain h hdigits => exact hletter h (.plain h hdigits)
  | signed h hsign hdigits => exact hletter h (.signed h hsign hdigits)

/-! ## Fractions and whole numbers -/

/-- Digits end where a fraction or an exponent starts. -/
theorem head_exponent {exponent : List Char} (hexponent : IsExponent exponent)
    {rest : List Char} (hrest : endsNumber rest) :
    (exponent ++ rest).head?.all fun c => !c.isDigit := by
  cases hexponent with
  | none => exact head_not_digit hrest
  | plain hletter => rcases hletter with rfl | rfl <;> rfl
  | signed hletter => rcases hletter with rfl | rfl <;> rfl

theorem readsWhole_readFraction (positive : Bool) (digits : Nat) (start : Int)
    {run exponent : List Char} (hrun : isDigits run) (hexponent : IsExponent exponent) :
    ReadsWhole (readFraction positive digits start) (run ++ exponent) := by
  obtain ⟨value?, hvalue⟩ := readsWhole_readExponentOrEnd positive
    (takeDigits digits run).1
    (start - ((run.length : Int) - (takeDigits digits run).2.length)) hexponent
  refine ⟨value?, fun rest hrest => ?_⟩
  have hspan := spanDigits_append (all_of_isDigits hrun) (head_exponent hexponent hrest)
  rw [← hvalue rest hrest, List.append_assoc, readFraction, hspan]
  cases run with
  | nil => cases hrun
  | cons c run => rfl

/-- Reads what follows whole digits that are no integer by themselves. -/
theorem readAfterDigits_end {positive : Bool} {run rest : List Char} (hrest : endsNumber rest) :
    readAfterDigits positive run rest =
      if (takeDigits 0 run).2.isEmpty then
        match integerNumber positive (takeDigits 0 run).1 with
        | some value => .ok (value, rest)
        | none => .error (.before .numberOutOfRange rest)
      else readScaled positive (takeDigits 0 run).1 (takeDigits 0 run).2.length rest := by
  unfold readAfterDigits
  dsimp only
  split
  · exact absurd rfl (endsNumber_cons hrest).2.1
  · exact absurd rfl (endsNumber_cons hrest).2.2.1
  · exact absurd rfl (endsNumber_cons hrest).2.2.2
  · rfl

theorem readsWhole_readAfterDigits (positive : Bool) (run : List Char)
    {fraction exponent : List Char}
    (hfraction : IsFraction fraction) (hexponent : IsExponent exponent) :
    ReadsWhole (readAfterDigits positive run) (fraction ++ exponent) := by
  cases hfraction with
  | some hdigits =>
      obtain ⟨value?, hvalue⟩ := readsWhole_readFraction positive
        (takeDigits 0 run).1 (takeDigits 0 run).2.length hdigits hexponent
      exact ⟨value?, hvalue⟩
  | none =>
      have hletter : ∀ {letter : Char} {power : List Char}, letter = 'e' ∨ letter = 'E' →
          IsExponent (letter :: power) →
          ReadsWhole (readAfterDigits positive run) ([] ++ letter :: power) := by
        intro letter power hletter hpower
        obtain ⟨value?, hvalue⟩ := readsWhole_readExponent positive
          (takeDigits 0 run).1 (takeDigits 0 run).2.length hpower
        rcases hletter with rfl | rfl <;> exact ⟨value?, hvalue⟩
      cases hexponent with
      | none =>
          by_cases hleft : (takeDigits 0 run).2.isEmpty
          · refine ⟨integerNumber positive (takeDigits 0 run).1, fun rest hrest => ?_⟩
            rw [List.append_nil, List.nil_append, readAfterDigits_end hrest, if_pos hleft]
            cases integerNumber positive (takeDigits 0 run).1 <;> rfl
          · refine ⟨(Binary64.scaled? (takeDigits 0 run).1 (takeDigits 0 run).2.length).map
              (signed positive), fun rest hrest => ?_⟩
            rw [List.append_nil, List.nil_append, readAfterDigits_end hrest, if_neg hleft,
              readScaled_toOption]
      | plain h hdigits => exact hletter h (.plain h hdigits)
      | signed h hsign hdigits => exact hletter h (.signed h hsign hdigits)

theorem readNumber_whole (positive : Bool) {whole rest : List Char} (hwhole : isWhole whole)
    (hrest : rest.head?.all fun c => !c.isDigit) :
    readNumber positive (whole ++ rest) = readAfterDigits positive whole rest := by
  simp only [isWhole, Bool.or_eq_true, Bool.and_eq_true, decide_eq_true_eq] at hwhole
  rcases hwhole with rfl | ⟨hdigits, hhead⟩
  · cases rest with
    | nil => rfl
    | cons c rest =>
        have hc : c.isDigit = false := by
          simpa using hrest
        simp [readNumber, hc]
  · have hspan := spanDigits_append (all_of_isDigits hdigits) hrest
    cases whole with
    | nil => cases hdigits
    | cons c whole =>
        have hzero : c ≠ '0' := by
          simpa using hhead
        rw [List.cons_append] at hspan ⊢
        unfold readNumber
        split
        · rename_i hnil
          cases hnil
        · rename_i hcons
          exact absurd (List.cons_eq_cons.mp hcons).1 hzero
        · rename_i hcons
          obtain ⟨rfl, rfl⟩ := List.cons_eq_cons.mp hcons
          rw [if_pos (isDigit_head hdigits), hspan]

theorem head_fraction {fraction exponent : List Char} (hfraction : IsFraction fraction)
    (hexponent : IsExponent exponent) {rest : List Char} (hrest : endsNumber rest) :
    (fraction ++ exponent ++ rest).head?.all fun c => !c.isDigit := by
  cases hfraction with
  | none => exact head_exponent hexponent hrest
  | some => rfl

/-- The whole text of a number is read, as the same number whatever follows. -/
theorem readsWhole_readNumber (positive : Bool) {text : List Char} (htext : IsMagnitude text) :
    ReadsWhole (readNumber positive) text := by
  cases htext with
  | intro hwhole hfraction hexponent =>
      rename_i whole fraction exponent
      obtain ⟨value?, hvalue⟩ := readsWhole_readAfterDigits positive whole
        hfraction hexponent
      refine ⟨value?, fun rest hrest => ?_⟩
      have hread := readNumber_whole positive hwhole
        (head_fraction hfraction hexponent hrest)
      rw [← hvalue rest hrest, ← hread]
      simp only [List.append_assoc]

/-! ## Integers -/

theorem le_ofDigitChars (digits : List Char) (value : Nat) :
    value ≤ Nat.ofDigitChars 10 digits value := by
  have hpos : 0 < 10 ^ digits.length := Nat.pow_pos (by decide)
  rw [Nat.ofDigitChars_eq_ofDigitChars_zero]
  exact Nat.le_trans (Nat.le_mul_of_pos_left value hpos) (Nat.le_add_right _ _)

theorem takeDigits_of_lt {digits : List Char} {value : Nat}
    (hvalue : Nat.ofDigitChars 10 digits value < 0x10000000000000000) :
    takeDigits value digits = (Nat.ofDigitChars 10 digits value, []) := by
  induction digits generalizing value with
  | nil => rfl
  | cons c digits ih =>
      have hstep : Nat.ofDigitChars 10 (c :: digits) value =
          Nat.ofDigitChars 10 digits (value * 10 + (c.toNat - 0x30)) := by
        rw [Nat.ofDigitChars_cons, Nat.mul_comm]
        rfl
      have hnext := le_ofDigitChars digits (value * 10 + (c.toNat - 0x30))
      rw [hstep] at hvalue ⊢
      rw [takeDigits, if_pos (by omega)]
      exact ih hvalue

theorem takeDigits_digitChars {n : Nat} (hn : n < 0x10000000000000000) :
    takeDigits 0 (digitChars n) = (n, []) := by
  have hvalue : Nat.ofDigitChars 10 (digitChars n) 0 = n :=
    Nat.ofDigitChars_toDigits (by decide) (by decide)
  rw [takeDigits_of_lt (by omega), hvalue]

theorem readNumber_digitChars {positive : Bool} {n : Nat} (hn : n < 0x10000000000000000)
    {value : Number} (hvalue : integerNumber positive n = some value) {rest : List Char}
    (hrest : endsNumber rest) :
    readNumber positive (digitChars n ++ rest) = .ok (value, rest) := by
  rw [readNumber_whole positive (Decimal.isWhole_digitChars n) (head_not_digit hrest),
    readAfterDigits_end hrest, takeDigits_digitChars hn]
  simp [hvalue]

theorem integerNumber_of_nonneg {n : WideInt} (hn : 0 ≤ n.value) :
    integerNumber true n.value.natAbs = some (.integer n) := by
  have hvalue : (n.value.natAbs : Int) = n.value := by
    omega
  simp [integerNumber, hvalue]

theorem integerNumber_of_neg {n : WideInt} (hn : n.value < 0) :
    integerNumber false n.value.natAbs = some (.integer n) := by
  have hlower := n.lower
  have hvalue : -(n.value.natAbs : Int) = n.value := by
    omega
  have hsmall : ¬ 0x8000000000000000 < n.value.natAbs := by
    omega
  have hnonzero : n.value.natAbs ≠ 0 := by
    omega
  unfold integerNumber
  rw [if_neg (by decide), if_neg (by simp [hnonzero, hsmall]), hvalue, WideInt.ofInt?_value]
  rfl

end Json

end Toolbench
