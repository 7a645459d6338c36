import Mathlib
import Toolbench.Decimal.Binary64

/-!
# Integers as floating-point numbers

Every integer of 64 bits has a nearest floating-point number, which is the integer itself where
its magnitude has at most 53 bits.  An integer is that of at most one such number, but for the
sign of zero.
-/

namespace Toolbench

namespace Binary64

/-! ## Rounding -/

/-- A quotient is rounded to one of its two neighbours. -/
theorem divRound_bounds (num den : Nat) :
    num / den ≤ divRound num den ∧ divRound num den ≤ num / den + 1 := by
  unfold divRound
  dsimp only
  split <;> omega

/-- A quotient without a remainder is not rounded. -/
theorem divRound_of_mod_eq_zero {num den : Nat} (hden : 0 < den) (hmod : num % den = 0) :
    divRound num den = num / den := by
  have hne : 0 ≠ den := by
    omega
  simp [divRound, hmod, hne]

/-- The exponent of a natural number of `53 + e` bits. -/
theorem ratioExponent_of_large {n e : Nat} (hlow : 2 ^ 52 * 2 ^ e ≤ n)
    (hhigh : n < 2 ^ 53 * 2 ^ e) : ratioExponent n 1 = (e : Int) := by
  have hpow : 0 < 2 ^ e := Nat.two_pow_pos e
  have hlog : Nat.log2 n = 52 + e := by
    rw [Nat.log2_eq_iff (by omega)]
    rw [show 52 + e + 1 = 53 + e by omega, Nat.pow_add, Nat.pow_add]
    exact ⟨hlow, hhigh⟩
  have hguess : Int.ofNat (Nat.log2 n) - Int.ofNat (Nat.log2 1) - 52 = Int.ofNat e := by
    have hone : Nat.log2 1 = 0 := by
      decide
    rw [hlog, hone]
    simp only [Int.ofNat_eq_natCast]
    omega
  have hquotient : ¬ (n / (1 * Nat.pow 2 e) < 0x10000000000000) := by
    have hle : 2 ^ 52 ≤ n / 2 ^ e := (Nat.le_div_iff_mul_le hpow).mpr hlow
    have hsame : 1 * Nat.pow 2 e = 2 ^ e := Nat.one_mul _
    rw [hsame]
    omega
  simp only [ratioExponent, hguess, shiftRatio, hquotient, if_false]
  rw [Int.ofNat_eq_natCast]
  omega

/-- A natural number of `53 + e` bits is rounded to 53 bits. -/
theorem ofRatio?_of_large (negative : Bool) {n e : Nat} (hlow : 2 ^ 52 * 2 ^ e ≤ n)
    (hhigh : n < 2 ^ 53 * 2 ^ e) :
    ofRatio? negative n 1 =
      if divRound n (2 ^ e) == 0x20000000000000 then ofParts? negative 0x10000000000000 (e + 1)
      else ofParts? negative (divRound n (2 ^ e)) e := by
  have hpow : 0 < 2 ^ e := Nat.two_pow_pos e
  have hne : ¬ n = 0 := by
    omega
  unfold ofRatio?
  simp only [beq_iff_eq, hne, if_false, ratioExponent_of_large hlow hhigh]
  have hshift : shiftRatio n 1 (e : Int) = (n, 2 ^ e) :=
    Prod.ext rfl (Nat.one_mul _)
  rw [hshift]

/-- The exponent of a natural number of `52 - d` bits. -/
theorem ratioExponent_of_small {n d : Nat} (hd : d < 52) (hlow : 2 ^ 52 ≤ n * 2 ^ (d + 1))
    (hhigh : n * 2 ^ (d + 1) < 2 ^ 53) : ratioExponent n 1 = Int.negSucc d := by
  have hpow : 0 < 2 ^ (d + 1) := Nat.two_pow_pos (d + 1)
  have hn : n ≠ 0 := by
    rintro rfl
    simp at hlow
  have hlog : Nat.log2 n = 51 - d := by
    rw [Nat.log2_eq_iff hn]
    constructor
    · refine Nat.le_of_mul_le_mul_right ?_ hpow
      rw [← Nat.pow_add, show 51 - d + (d + 1) = 52 by omega]
      exact hlow
    · refine Nat.lt_of_mul_lt_mul_right (a := 2 ^ (d + 1)) ?_
      rw [← Nat.pow_add, show 51 - d + 1 + (d + 1) = 53 by omega]
      exact hhigh
  have hguess : Int.ofNat (Nat.log2 n) - Int.ofNat (Nat.log2 1) - 52 = Int.negSucc d := by
    have hone : Nat.log2 1 = 0 := by
      decide
    rw [hlog, hone, Int.negSucc_eq]
    simp only [Int.ofNat_eq_natCast]
    omega
  have hquotient : ¬ (n * Nat.pow 2 (d + 1) / 1 < 0x10000000000000) := by
    rw [Nat.div_one]
    exact Nat.not_lt.mpr hlow
  simp only [ratioExponent, hguess, shiftRatio, hquotient, if_false]
  rw [Int.negSucc_eq]
  omega

/-- A natural number of at most 52 bits is not rounded. -/
theorem ofRatio?_of_small (negative : Bool) {n d : Nat} (hd : d < 52)
    (hlow : 2 ^ 52 ≤ n * 2 ^ (d + 1)) (hhigh : n * 2 ^ (d + 1) < 2 ^ 53) :
    ofRatio? negative n 1 = ofParts? negative (n * 2 ^ (d + 1)) (Int.negSucc d) := by
  have hne : ¬ n = 0 := by
    rintro rfl
    simp at hlow
  have hexact : divRound (n * 2 ^ (d + 1)) 1 = n * 2 ^ (d + 1) := by
    rw [divRound_of_mod_eq_zero (by omega) (Nat.mod_one _), Nat.div_one]
  have hshift : shiftRatio n 1 (Int.negSucc d) = (n * 2 ^ (d + 1), 1) := rfl
  have hbound : ¬ n * 2 ^ (d + 1) = 0x20000000000000 := Nat.ne_of_lt hhigh
  unfold ofRatio?
  simp only [beq_iff_eq, hne, if_false, ratioExponent_of_small hd hlow hhigh, hshift, hexact,
    hbound]

/-! ## Integers -/

/-- A natural number is zero, or has at most 52 bits, or more. -/
theorem size_cases (n : Nat) :
    n = 0 ∨
      (∃ d < 52, 2 ^ 52 ≤ n * 2 ^ (d + 1) ∧ n * 2 ^ (d + 1) < 2 ^ 53) ∨
      ∃ e, 2 ^ 52 * 2 ^ e ≤ n ∧ n < 2 ^ 53 * 2 ^ e := by
  by_cases hn : n = 0
  · exact Or.inl hn
  · have hlow : 2 ^ Nat.log2 n ≤ n := Nat.log2_self_le hn
    have hhigh : n < 2 ^ (Nat.log2 n + 1) := Nat.lt_log2_self
    by_cases hlarge : 52 ≤ Nat.log2 n
    · refine Or.inr (Or.inr ⟨Nat.log2 n - 52, ?_, ?_⟩)
      · rw [← Nat.pow_add, show 52 + (Nat.log2 n - 52) = Nat.log2 n by omega]
        exact hlow
      · rw [← Nat.pow_add, show 53 + (Nat.log2 n - 52) = Nat.log2 n + 1 by omega]
        exact hhigh
    · refine Or.inr (Or.inl ⟨51 - Nat.log2 n, by omega, ?_, ?_⟩)
      · calc
          2 ^ 52 = 2 ^ Nat.log2 n * 2 ^ (51 - Nat.log2 n + 1) := by
            rw [← Nat.pow_add, show Nat.log2 n + (51 - Nat.log2 n + 1) = 52 by omega]
          _ ≤ n * 2 ^ (51 - Nat.log2 n + 1) := Nat.mul_le_mul_right _ hlow
      · calc
          n * 2 ^ (51 - Nat.log2 n + 1)
              < 2 ^ (Nat.log2 n + 1) * 2 ^ (51 - Nat.log2 n + 1) :=
            Nat.mul_lt_mul_of_pos_right hhigh (Nat.two_pow_pos _)
          _ = 2 ^ 53 := by
            rw [← Nat.pow_add, show Nat.log2 n + 1 + (51 - Nat.log2 n + 1) = 53 by omega]

theorem exists_ofParts? (negative : Bool) (significand : Nat) (exponent : Int)
    (hlow : 0x10000000000000 ≤ significand) (hhigh : significand < 0x20000000000000)
    (hleast : -1074 ≤ exponent) (hgreatest : exponent ≤ 971) :
    ∃ x : Binary64, ofParts? negative significand exponent = some x ∧ x.negative = negative ∧
      x.significand = significand ∧ x.exponent = exponent := by
  have hnormal : significand < 0x20000000000000 ∧ -1074 ≤ exponent ∧ exponent ≤ 971 ∧
      (0x10000000000000 ≤ significand ∨ exponent = -1074) :=
    ⟨hhigh, hleast, hgreatest, Or.inl hlow⟩
  exact ⟨⟨negative, significand, exponent, hnormal⟩, dif_pos hnormal, rfl, rfl, rfl⟩

/-- Every integer of 64 bits has a nearest number. -/
theorem exists_ofInt? {n : Int} (hn : n.natAbs < 2 ^ 64) : ∃ x, ofInt? n = some x := by
  unfold ofInt?
  rcases size_cases n.natAbs with hzero | ⟨d, hd, hlow, hhigh⟩ | ⟨e, hlow, hhigh⟩
  · simp [hzero, ofRatio?]
  · rw [ofRatio?_of_small _ hd hlow hhigh]
    have hparts := exists_ofParts? (decide (n < 0)) _ (Int.negSucc d) hlow hhigh
      (by rw [Int.negSucc_eq]; omega) (by rw [Int.negSucc_eq]; omega)
    exact hparts.imp fun x hx => hx.1
  · have hpow : 0 < 2 ^ e := Nat.two_pow_pos e
    have he : e < 12 := by
      refine (Nat.pow_lt_pow_iff_right (a := 2) (by omega)).mp ?_
      omega
    have hquotient : 2 ^ 52 ≤ n.natAbs / 2 ^ e ∧ n.natAbs / 2 ^ e < 2 ^ 53 :=
      ⟨(Nat.le_div_iff_mul_le hpow).mpr hlow, (Nat.div_lt_iff_lt_mul hpow).mpr hhigh⟩
    have hrounded := divRound_bounds n.natAbs (2 ^ e)
    rw [ofRatio?_of_large _ hlow hhigh]
    split
    · have hparts := exists_ofParts? (decide (n < 0)) 0x10000000000000 ((e : Int) + 1)
        (Nat.le_refl _) (by omega) (by omega) (by omega)
      exact hparts.imp fun x hx => hx.1
    · rename_i hbound
      rw [beq_iff_eq] at hbound
      have hparts := exists_ofParts? (decide (n < 0)) (divRound n.natAbs (2 ^ e)) (e : Int)
        (by omega) (by omega) (by omega) (by omega)
      exact hparts.imp fun x hx => hx.1

theorem toInt?_of_ratio {x : Binary64} {m : Nat} (hmod : x.ratio.1 % x.ratio.2 = 0)
    (hquotient : x.ratio.1 / x.ratio.2 = m) :
    x.toInt? = some (if x.negative then -(m : Int) else m) := by
  simp [toInt?, hmod, hquotient]

theorem toInt?_of_exponent_negSucc {x : Binary64} {m d : Nat}
    (hexponent : x.exponent = Int.negSucc d) (hsignificand : x.significand = m * 2 ^ (d + 1)) :
    x.toInt? = some (if x.negative then -(m : Int) else m) := by
  have hpow : 0 < 2 ^ (d + 1) := Nat.two_pow_pos (d + 1)
  have hratio : x.ratio = (m * 2 ^ (d + 1), 2 ^ (d + 1)) := by
    simp [ratio, hexponent, hsignificand]
  refine toInt?_of_ratio ?_ ?_
  · rw [hratio]
    exact Nat.mul_mod_left m _
  · rw [hratio]
    exact Nat.mul_div_cancel m hpow

theorem toInt?_of_exponent_ofNat {x : Binary64} {e : Nat} (hexponent : x.exponent = (e : Int)) :
    x.toInt? = some (if x.negative then -((x.significand * 2 ^ e : Nat) : Int)
      else (x.significand * 2 ^ e : Nat)) := by
  have hratio : x.ratio = (x.significand * 2 ^ e, 1) := by
    simp [ratio, hexponent]
  refine toInt?_of_ratio ?_ ?_
  · rw [hratio]
    exact Nat.mod_one _
  · rw [hratio]
    exact Nat.div_one _

theorem toInt?_of_isZero {x : Binary64} (hx : x.isZero) : x.toInt? = some 0 := by
  have hnone : x.significand = 0 := by
    simpa [isZero] using hx
  have hratio : x.ratio.1 = 0 := by
    unfold ratio
    split <;> simp [hnone]
  have hvalue := toInt?_of_ratio (x := x) (m := 0) (by rw [hratio, Nat.zero_mod])
    (by rw [hratio, Nat.zero_div])
  simpa using hvalue

theorem signed_natAbs (n : Int) :
    (if decide (n < 0) = true then -(n.natAbs : Int) else n.natAbs) = n := by
  by_cases hnegative : n < 0
  · rw [if_pos (decide_eq_true hnegative)]
    omega
  · rw [if_neg (by simpa using hnegative)]
    omega

/-- An integer of at most 53 bits is its own nearest number. -/
theorem toInt?_ofInt? {n : Int} {x : Binary64} (hn : n.natAbs ≤ 2 ^ 53)
    (hx : ofInt? n = some x) : x.toInt? = some n := by
  unfold ofInt? at hx
  rcases size_cases n.natAbs with hzero | ⟨d, hd, hlow, hhigh⟩ | ⟨e, hlow, hhigh⟩
  · have hn : n = 0 := Int.natAbs_eq_zero.mp hzero
    subst hn
    simp only [ofRatio?, Int.natAbs_zero, beq_self_eq_true, if_true, Option.some.injEq] at hx
    subst hx
    exact toInt?_of_isZero rfl
  · rw [ofRatio?_of_small _ hd hlow hhigh] at hx
    have hparts := exists_ofParts? (decide (n < 0)) _ (Int.negSucc d) hlow hhigh
      (by rw [Int.negSucc_eq]; omega) (by rw [Int.negSucc_eq]; omega)
    obtain ⟨y, hy, hsign, hsignificand, hexponent⟩ := hparts
    obtain rfl := Option.some.inj (hy.symm.trans hx)
    rw [toInt?_of_exponent_negSucc hexponent hsignificand, hsign, signed_natAbs]
  · have hpow : 0 < 2 ^ e := Nat.two_pow_pos e
    have he : e < 2 := by
      refine (Nat.pow_lt_pow_iff_right (a := 2) (by omega)).mp ?_
      omega
    -- beyond 53 bits there is only the power of two, which is even
    have hmod : n.natAbs % 2 ^ e = 0 := by
      rcases Nat.eq_zero_or_pos e with rfl | hpos
      · exact Nat.mod_one _
      · obtain rfl : e = 1 := by
          omega
        omega
    have hexact := divRound_of_mod_eq_zero hpow hmod
    have hquotient : 2 ^ 52 ≤ n.natAbs / 2 ^ e ∧ n.natAbs / 2 ^ e < 2 ^ 53 :=
      ⟨(Nat.le_div_iff_mul_le hpow).mpr hlow, (Nat.div_lt_iff_lt_mul hpow).mpr hhigh⟩
    have hbound : (n.natAbs / 2 ^ e == 0x20000000000000) = false := by
      rw [beq_eq_false_iff_ne]
      omega
    rw [ofRatio?_of_large _ hlow hhigh, hexact, hbound] at hx
    have hparts := exists_ofParts? (decide (n < 0)) _ (e : Int) hquotient.1 hquotient.2
      (by omega) (by omega)
    obtain ⟨y, hy, hsign, hsignificand, hexponent⟩ := hparts
    obtain rfl := Option.some.inj (hy.symm.trans hx)
    have hwhole : n.natAbs / 2 ^ e * 2 ^ e = n.natAbs :=
      Nat.div_mul_cancel (Nat.dvd_of_mod_eq_zero hmod)
    rw [toInt?_of_exponent_ofNat hexponent, hsign, hsignificand, hwhole, signed_natAbs]

/-! ## Numbers of one value -/

/-- How far the exponent of a number is above the least one. -/
def places (x : Binary64) : Nat :=
  (x.exponent + 1074).toNat

/-- How many of the least numbers make one. -/
def leastPerOne : Nat :=
  2 ^ 1074

theorem mul_pow_pow {n first second count : Nat} (hcount : first + second = count) :
    n * 2 ^ first * 2 ^ second = n * 2 ^ count := by
  rw [Nat.mul_assoc, ← Nat.pow_add, hcount]

theorem ratio_mul_places (x : Binary64) :
    x.significand * 2 ^ x.places * x.ratio.2 = x.ratio.1 * leastPerOne := by
  have hnormal := x.normal
  cases hexponent : x.exponent with
  | ofNat e =>
      have hratio : x.ratio = (x.significand * 2 ^ e, 1) := by
        simp [ratio, hexponent]
      have hplaces : x.places = e + 1074 := by
        rw [places, hexponent, Int.ofNat_eq_natCast]
        omega
      rw [hratio, hplaces, Nat.mul_one]
      exact (mul_pow_pow rfl).symm
  | negSucc d =>
      have hratio : x.ratio = (x.significand, 2 ^ (d + 1)) := by
        simp [ratio, hexponent]
      have hplaces : x.places + (d + 1) = 1074 := by
        rw [places, hexponent, Int.negSucc_eq]
        rw [hexponent, Int.negSucc_eq] at hnormal
        omega
      rw [hratio]
      exact mul_pow_pow hplaces

theorem toInt?_eq_some {x : Binary64} {n : Int} (hx : x.toInt? = some n) :
    x.ratio.1 = n.natAbs * x.ratio.2 ∧
      (if x.negative then -(n.natAbs : Int) else n.natAbs) = n := by
  unfold toInt? at hx
  dsimp only at hx
  split at hx
  · rename_i hmod
    rw [beq_iff_eq] at hmod
    have hquotient : x.ratio.1 / x.ratio.2 * x.ratio.2 = x.ratio.1 :=
      Nat.div_mul_cancel (Nat.dvd_of_mod_eq_zero hmod)
    generalize x.ratio.1 / x.ratio.2 = m at hx hquotient
    obtain rfl := Option.some.inj hx
    cases x.negative <;> simp [hquotient]
  · cases hx

theorem ratio_pos (x : Binary64) : 0 < x.ratio.2 := by
  unfold ratio
  split
  · exact Nat.one_pos
  · exact Nat.two_pow_pos _

/-- A magnitude is counted in one way only, as the significands are in normal form. -/
theorem eq_of_mul_pow {s t a b : Nat} (hs : s < 2 ^ 53) (ht : 2 ^ 52 ≤ t ∨ b = 0)
    (hab : a ≤ b) (hsame : s * 2 ^ a = t * 2 ^ b) : s = t ∧ a = b := by
  obtain ⟨k, rfl⟩ := Nat.exists_eq_add_of_le hab
  have hpow : 0 < 2 ^ a := Nat.two_pow_pos a
  have hst : s = t * 2 ^ k := by
    refine Nat.eq_of_mul_eq_mul_right hpow ?_
    rw [hsame, Nat.pow_add, Nat.mul_assoc, Nat.mul_comm (2 ^ k)]
  rcases Nat.eq_zero_or_pos k with rfl | hk
  · simpa using hst
  · have hdouble : 2 ≤ 2 ^ k := Nat.le_self_pow (by omega) 2
    have hlarge : t * 2 ≤ s := hst ▸ Nat.mul_le_mul_left t hdouble
    omega

theorem negative_of_toInt? {x : Binary64} {n : Int} (hx : x.toInt? = some n) (hn : n ≠ 0) :
    x.negative = decide (n < 0) := by
  have hsign := (toInt?_eq_some hx).2
  cases hnegative : x.negative with
  | true =>
      rw [hnegative, if_pos rfl] at hsign
      exact (decide_eq_true (by omega)).symm
  | false =>
      rw [hnegative, if_neg Bool.false_ne_true] at hsign
      exact (decide_eq_false (by omega)).symm

/-- Two numbers of one integer value are the same, but for the sign of zero. -/
theorem sameValue_of_toInt? {x y : Binary64} {n : Int} (hx : x.toInt? = some n)
    (hy : y.toInt? = some n) : x.sameValue y := by
  have hmagnitude : ∀ {z : Binary64}, z.toInt? = some n →
      z.significand * 2 ^ z.places = n.natAbs * leastPerOne := by
    intro z hz
    refine Nat.eq_of_mul_eq_mul_right z.ratio_pos ?_
    rw [ratio_mul_places, (toInt?_eq_some hz).1, Nat.mul_right_comm]
  have hnormal : ∀ z : Binary64,
      z.significand < 2 ^ 53 ∧ (2 ^ 52 ≤ z.significand ∨ z.places = 0) := by
    intro z
    have hz := z.normal
    refine ⟨hz.1, hz.2.2.2.imp id fun hleast => ?_⟩
    rw [places, hleast]
    rfl
  have hsame : x.significand = y.significand ∧ x.places = y.places := by
    have heq := (hmagnitude hx).trans (hmagnitude hy).symm
    rcases Nat.le_total x.places y.places with hle | hle
    · exact eq_of_mul_pow (hnormal x).1 (hnormal y).2 hle heq
    · have hswapped := eq_of_mul_pow (hnormal y).1 (hnormal x).2 hle heq.symm
      exact ⟨hswapped.1.symm, hswapped.2.symm⟩
  have hexponent : x.exponent = y.exponent := by
    have hleast := And.intro x.normal.2.1 y.normal.2.1
    have hplaces := hsame.2
    unfold places at hplaces
    omega
  by_cases hzero : n = 0
  · have hnone : x.significand = 0 := by
      have hx := hmagnitude hx
      rw [hzero, Int.natAbs_zero, Nat.zero_mul] at hx
      exact (Nat.mul_eq_zero.mp hx).resolve_right (Nat.ne_of_gt (Nat.two_pow_pos _))
    simp [sameValue, isZero, ← hsame.1, hnone]
  · have hnegative : x.negative = y.negative := by
      rw [negative_of_toInt? hx hzero, negative_of_toInt? hy hzero]
    have heq : x = y := by
      cases x
      cases y
      simp_all
    simp [sameValue, heq]

end Binary64

end Toolbench
