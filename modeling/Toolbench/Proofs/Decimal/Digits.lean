import Mathlib
import Toolbench.Decimal.Literal
import Toolbench.Proofs.Json.Numeral
import Toolbench.Text.Blank

/-!
# Digits of integers

The decimal text of an integer spells that integer, to the reader of integers as well as to the
reader of floating-point literals, which takes the number nearest to it.
-/

namespace Toolbench

open Decimal (digitChars natText intText)

@[simp]
theorem WideInt.ofInt?_value (n : WideInt) : WideInt.ofInt? n.value = some n :=
  dif_pos ⟨n.lower, n.upper⟩

theorem Floating.digitsValue_eq (digits : List Char) :
    digitsValue digits = Nat.ofDigitChars 10 digits 0 := by
  unfold digitsValue Nat.ofDigitChars
  congr 1
  funext value c
  rw [Nat.mul_comm]
  rfl

theorem Text.trimBlanks_eq_self {text : List Char} (hnone : ∀ c ∈ text, isBlank c = false) :
    trimBlanks text = text := by
  have hdrop : ∀ {chars : List Char}, (∀ c ∈ chars, isBlank c = false) →
      dropBlanks chars = chars := by
    intro chars hchars
    cases chars with
    | nil => rfl
    | cons c rest => simp [dropBlanks, hchars c List.mem_cons_self]
  unfold trimBlanks
  rw [hdrop hnone, hdrop fun c hc => hnone c (List.mem_reverse.mp hc), List.reverse_reverse]

theorem Json.isBlank_of_isNumeral {c : Char} (hc : isNumeral c) : Text.isBlank c = false := by
  have hcode : 0x2B ≤ c.toNat ∧ c.toNat ≤ 0x65 := by
    simp only [isNumeral, Char.isDigit, List.contains_cons, List.contains_nil, Bool.or_false,
      Bool.or_eq_true, Bool.and_eq_true, decide_eq_true_eq, beq_iff_eq] at hc
    rcases hc with hdigit | rfl | rfl | rfl | rfl | rfl
    · have hlow : 48 ≤ c.toNat := hdigit.1
      have hhigh : c.toNat ≤ 57 := hdigit.2
      omega
    all_goals decide
  simp only [Text.isBlank, Bool.or_eq_false_iff, Bool.and_eq_false_iff, decide_eq_false_iff_not,
    beq_eq_false_iff_ne]
  omega

namespace Decimal

theorem digitsValue_digitChars (n : Nat) : Floating.digitsValue (digitChars n) = n := by
  rw [Floating.digitsValue_eq]
  exact Nat.ofDigitChars_toDigits (by omega) (by omega)

theorem digitChars_injective {m n : Nat} (hdigits : digitChars m = digitChars n) : m = n := by
  rw [← digitsValue_digitChars m, hdigits, digitsValue_digitChars]

/-- A natural number has a first digit. -/
theorem exists_digitChars (n : Nat) :
    ∃ first rest, digitChars n = first :: rest ∧ first.isDigit := by
  have hnonempty : digitChars n ≠ [] := Nat.toDigits_ne_nil
  obtain ⟨first, rest, hdigits⟩ := List.exists_cons_of_ne_nil hnonempty
  have hmem : first ∈ digitChars n := by
    simp [hdigits]
  exact ⟨first, rest, hdigits, isDigit_of_mem_digitChars hmem⟩

theorem toList_intText (n : Int) :
    (intText n).toList =
      if n < 0 then '-' :: digitChars n.natAbs else digitChars n.natAbs := by
  unfold intText natText
  split <;> simp

/-- What the text of an integer starts with, besides a sign in front of a digit. -/
theorem ne_of_isDigit {c : Char} (hc : c.isDigit) (other : Char) (hother : other.isDigit = false) :
    c ≠ other := by
  rintro rfl
  simp [hc] at hother

theorem integerText?_intText (n : Int) : integerText? (intText n).toList = some n := by
  have hdigits : Floating.isDigits (digitChars n.natAbs) := isDigits_digitChars n.natAbs
  rw [toList_intText]
  by_cases hnegative : n < 0
  · have hvalue : -(n.natAbs : Int) = n := by
      omega
    rw [if_pos hnegative, integerText?, if_pos hdigits, digitsValue_digitChars, hvalue]
  · have hvalue : (n.natAbs : Int) = n := by
      omega
    obtain ⟨first, rest, htext, hfirst⟩ := exists_digitChars n.natAbs
    rw [if_neg hnegative]
    unfold integerText?
    split
    · rename_i minus hminus
      simp [htext, ne_of_isDigit hfirst '-' rfl] at hminus
    · rename_i plus hplus
      simp [htext, ne_of_isDigit hfirst '+' rfl] at hplus
    · rw [if_pos hdigits, digitsValue_digitChars, hvalue]

theorem trimBlanks_intText (n : Int) :
    Text.trimBlanks (intText n).toList = (intText n).toList := by
  refine Text.trimBlanks_eq_self fun c hc => ?_
  have hnumerals := List.all_eq_true.mp (Json.all_isNumeral_of_isNumber (isNumber_intText n))
  exact Json.isBlank_of_isNumeral (hnumerals c hc)

end Decimal

namespace Floating

open Decimal

theorem toLower_of_isDigit {c : Char} (hc : c.isDigit) : c.toLower = c := by
  simp only [Char.isDigit, Bool.and_eq_true, decide_eq_true_eq] at hc
  have hhigh : c.toNat ≤ 57 := hc.2
  unfold Char.toLower
  split
  · rename_i hupper
    have hlow : 65 ≤ c.toNat := hupper.1
    omega
  · rfl

/-- Digits are no word. -/
theorem unsigned?_digitChars (negative : Bool) (n : Nat) :
    unsigned? negative (digitChars n) = decimal? negative (digitChars n) := by
  obtain ⟨first, rest, htext, hfirst⟩ := exists_digitChars n
  have hword : ∀ (letter : Char) (others : List Char), letter.isDigit = false →
      String.ofList ((digitChars n).map Char.toLower) ≠ String.ofList (letter :: others) := by
    intro letter others hletter hsame
    rw [String.ofList_inj, htext, List.map_cons, toLower_of_isDigit hfirst] at hsame
    exact ne_of_isDigit hfirst letter hletter (List.cons_eq_cons.mp hsame).1
  have hinf := hword 'i' ['n', 'f'] rfl
  have hinfinity := hword 'i' ['n', 'f', 'i', 'n', 'i', 't', 'y'] rfl
  have hnan := hword 'n' ['a', 'n'] rfl
  have hnoword : (String.ofList ((digitChars n).map Char.toLower) == "inf" ||
      String.ofList ((digitChars n).map Char.toLower) == "infinity") = false := by
    simpa using ⟨hinf, hinfinity⟩
  have hnumber : (String.ofList ((digitChars n).map Char.toLower) == "nan") = false := by
    simpa using hnan
  simp only [unsigned?, hnoword, hnumber, Bool.false_eq_true, if_false]

/-- Digits without a point and an exponent spell the number nearest to them. -/
theorem decimal?_digitChars (negative : Bool) (n : Nat) :
    decimal? negative (digitChars n) =
      match Binary64.nearest? negative n 0 with
      | some value => some (.finite value)
      | none => some (.infinite negative) := by
  have hdigits : isDigits (digitChars n) := isDigits_digitChars n
  have hother : ∀ c ∈ digitChars n, ∀ mark : Char, mark.isDigit = false → c ≠ mark :=
    fun c hc mark hmark => ne_of_isDigit (isDigit_of_mem_digitChars hc) mark hmark
  have hmark : ∀ c ∈ digitChars n, (!(decide (c = 'e') || decide (c = 'E'))) = true := by
    intro c hc
    simp [hother c hc 'e' rfl, hother c hc 'E' rfl]
  have hpoint : ∀ c ∈ digitChars n, (c != '.') = true := by
    intro c hc
    simp [hother c hc '.' rfl]
  unfold decimal?
  simp only [List.takeWhile_eq_self_iff.mpr hmark, List.dropWhile_eq_nil_iff.mpr hmark,
    List.takeWhile_eq_self_iff.mpr hpoint, List.dropWhile_eq_nil_iff.mpr hpoint, List.drop_nil,
    List.append_nil, hdigits, digitsValue_digitChars, List.length_nil]
  cases hnearest : Binary64.nearest? negative n 0 <;>
    simp only [Bool.not_true, Bool.false_eq_true, if_false, Option.bind_eq_bind, Option.bind_some,
      Int.natCast_zero, Int.sub_zero, hnearest]

end Floating

namespace Binary64

/-- A natural number that is not beyond all reach is rounded at once. -/
theorem nearest?_zero (negative : Bool) {n : Nat} (hn : n < 10 ^ 100) :
    nearest? negative n 0 = ofRatio? negative n 1 := by
  have hlength : (Nat.toDigits 10 n).length ≤ 100 :=
    (Nat.length_toDigits_le_iff (by omega) (by omega)).mpr hn
  by_cases hzero : n = 0
  · simp [hzero, nearest?, ofRatio?]
  · have hleading : ¬ (Int.ofNat (Nat.toDigits 10 n).length + 0 < -400) ∧
        ¬ (400 < Int.ofNat (Nat.toDigits 10 n).length + 0) := by
      rw [Int.ofNat_eq_natCast]
      omega
    have hnear : nearest? negative n 0 = ofRatio? negative (n * Nat.pow 10 0) 1 := by
      unfold nearest?
      simp only [hleading.1, hleading.2, beq_iff_eq, hzero, Bool.or_eq_true, decide_eq_true_eq,
        or_self, if_false]
    rw [hnear]
    simp

end Binary64

/-- The text of an integer spells the number nearest to it. -/
theorem Floating.ofText?_intText {n : Int} (hn : n.natAbs < 10 ^ 100) :
    ofText? (intText n).toList =
      match Binary64.ofInt? n with
      | some value => some (.finite value)
      | none => some (.infinite (decide (n < 0))) := by
  have hspelled : ∀ negative, unsigned? negative (digitChars n.natAbs) =
      match Binary64.ofRatio? negative n.natAbs 1 with
      | some value => some (.finite value)
      | none => some (.infinite negative) := by
    intro negative
    rw [unsigned?_digitChars, decimal?_digitChars, Binary64.nearest?_zero negative hn]
  rw [Decimal.toList_intText, Binary64.ofInt?]
  by_cases hnegative : n < 0
  · rw [if_pos hnegative, ofText?, hspelled]
    simp [hnegative]
  · obtain ⟨first, rest, htext, hfirst⟩ := Decimal.exists_digitChars n.natAbs
    rw [if_neg hnegative]
    unfold ofText?
    split
    · rename_i minus hminus
      simp [htext, Decimal.ne_of_isDigit hfirst '-' rfl] at hminus
    · rename_i plus hplus
      simp [htext, Decimal.ne_of_isDigit hfirst '+' rfl] at hplus
    · rw [hspelled]
      simp [hnegative]

end Toolbench
