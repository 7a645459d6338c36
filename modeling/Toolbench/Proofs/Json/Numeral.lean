import Toolbench.Json.Printer
import Toolbench.Proofs.Json.Grammar

/-!
# Written numbers

Every number is written as JSON spells one: the whole digits have no zero in front of them, and
a point has digits on both sides.
-/

namespace Toolbench

namespace Decimal

open Json (isDigits isWhole IsFraction IsExponent IsMagnitude IsNumber)

theorem isDigit_of_mem_digitChars {n : Nat} {c : Char} (hc : c ∈ digitChars n) : c.isDigit :=
  Nat.isDigit_of_mem_toDigits (by decide) (by decide) hc

theorem isDigits_digitChars (n : Nat) : isDigits (digitChars n) := by
  have hnonempty : digitChars n ≠ [] := Nat.toDigits_ne_nil
  have hall : (digitChars n).all Char.isDigit := by
    rw [List.all_eq_true]
    exact fun c hc => isDigit_of_mem_digitChars hc
  simp [isDigits, hnonempty, hall]

theorem digitChar_ne_zero : ∀ n < 10, 0 < n → n.digitChar ≠ '0' := by
  decide

theorem head?_digitChars_ne_zero {n : Nat} (hn : 0 < n) :
    (digitChars n).head? ≠ some '0' := by
  induction n using Nat.strongRecOn with
  | _ n ih =>
      unfold digitChars
      by_cases hsmall : n < 10
      · rw [Nat.toDigits_of_lt_base hsmall]
        simpa using digitChar_ne_zero n hsmall hn
      · rw [Nat.toDigits_of_base_le (by decide) (by omega),
          List.head?_append_of_ne_nil _ Nat.toDigits_ne_nil]
        exact ih (n / 10) (by omega) (by omega)

theorem isWhole_of_head? {text : List Char} (hdigits : isDigits text)
    (hhead : text.head? ≠ some '0') : isWhole text := by
  simp [isWhole, hdigits, hhead]

theorem isWhole_digitChars (n : Nat) : isWhole (digitChars n) := by
  rcases Nat.eq_zero_or_pos n with rfl | hn
  · decide
  · exact isWhole_of_head? (isDigits_digitChars n) (head?_digitChars_ne_zero hn)

theorem isMagnitude_of_isWhole {text : List Char} (hwhole : isWhole text) : IsMagnitude text := by
  have hmagnitude := IsMagnitude.intro hwhole .none .none
  simpa using hmagnitude

theorem isNumber_intText (n : Int) : IsNumber (intText n).toList := by
  have hmagnitude : IsMagnitude (natText n.natAbs).toList := by
    rw [natText, String.toList_ofList]
    exact isMagnitude_of_isWhole (isWhole_digitChars _)
  unfold intText
  split
  · rw [String.toList_append]
    exact .negative hmagnitude
  · exact .positive hmagnitude

/-! ## Layouts -/

/-- Zero has no digits to drop, so its exponent is zero. -/
def IsNormal (d : Decimal) : Prop :=
  d.digits = 0 → d.exponent = 0

theorem isMagnitude_point {whole fraction : List Char} (hwhole : isWhole whole)
    (hfraction : isDigits fraction) : IsMagnitude (whole ++ '.' :: fraction) := by
  have hmagnitude := IsMagnitude.intro hwhole (.some hfraction) .none
  simpa using hmagnitude

theorem isDigits_of_all {text : List Char} (hnonempty : text ≠ []) (hall : text.all Char.isDigit) :
    isDigits text := by
  simp [isDigits, hnonempty, hall]

theorem all_isDigit_zeros_append (n count : Nat) :
    (List.replicate count '0' ++ digitChars n).all Char.isDigit := by
  rw [List.all_eq_true]
  intro c hc
  rcases List.mem_append.mp hc with hzero | hdigit
  · obtain rfl := List.eq_of_mem_replicate hzero
    decide
  · exact isDigit_of_mem_digitChars hdigit

theorem isWhole_digitChars_append_zeros {d : Decimal} (hnormal : IsNormal d) {count : Nat}
    (hcount : d.exponent = count) : isWhole (digitChars d.digits ++ List.replicate count '0') := by
  have hnonempty : digitChars d.digits ≠ [] := Nat.toDigits_ne_nil
  rcases Nat.eq_zero_or_pos d.digits with hzero | hpos
  · have hnone : count = 0 := by
      have hexponent := hnormal hzero
      omega
    rw [hzero, hnone]
    decide
  · refine isWhole_of_head? (isDigits_of_all (by simp [hnonempty]) ?_) ?_
    · have hzeros := all_isDigit_zeros_append d.digits count
      rw [List.all_append, Bool.and_eq_true] at hzeros ⊢
      exact hzeros.symm
    · rw [List.head?_append_of_ne_nil _ hnonempty]
      exact head?_digitChars_ne_zero hpos

/-- The digits in front of the last ones, where there are enough zeros to have one left. -/
theorem isWhole_take_padded (n places : Nat) (hplaces : 0 < places) :
    isWhole ((List.replicate (places + 1 - (digitChars n).length) '0' ++ digitChars n).take
      ((List.replicate (places + 1 - (digitChars n).length) '0' ++ digitChars n).length -
        places)) := by
  have hlength : (digitChars n).length > 0 := Nat.length_toDigits_pos
  by_cases hshort : (digitChars n).length ≤ places
  · have hone : (List.replicate (places + 1 - (digitChars n).length) '0' ++
        digitChars n).length - places = 1 := by
      rw [List.length_append, List.length_replicate]
      omega
    have hzeros : places + 1 - (digitChars n).length = (places - (digitChars n).length) + 1 := by
      omega
    rw [hone, hzeros, List.replicate_succ, List.cons_append, List.take_succ_cons, List.take_zero]
    decide
  · have hnone : places + 1 - (digitChars n).length = 0 := by
      omega
    have hpos : 0 < n := by
      rcases Nat.eq_zero_or_pos n with rfl | hpos
      · have hsingle : (digitChars 0).length = 1 := by
          decide
        omega
      · exact hpos
    rw [hnone, List.replicate_zero, List.nil_append]
    obtain ⟨count, hcount⟩ : ∃ count, (digitChars n).length - places = count + 1 :=
      ⟨(digitChars n).length - places - 1, by omega⟩
    rw [hcount]
    have hhead : ((digitChars n).take (count + 1)).head? = (digitChars n).head? := by
      cases digitChars n <;> simp
    refine isWhole_of_head? (isDigits_of_all ?_ ?_) (hhead ▸ head?_digitChars_ne_zero hpos)
    · simpa [List.take_eq_nil_iff] using List.ne_nil_of_length_pos hlength
    · rw [List.all_eq_true]
      exact fun c hc => isDigit_of_mem_digitChars (List.mem_of_mem_take hc)

theorem isMagnitude_positional {d : Decimal} (hnormal : IsNormal d) :
    IsMagnitude d.positional.toList := by
  unfold positional
  dsimp only
  split
  · rename_i count hexponent
    rw [String.toList_append, String.toList_ofList]
    exact isMagnitude_point (isWhole_digitChars_append_zeros hnormal hexponent) (by decide)
  · rename_i e hexponent
    rw [String.toList_ofList]
    refine isMagnitude_point (isWhole_take_padded _ (e + 1) (by omega)) (isDigits_of_all ?_ ?_)
    · simp only [ne_eq, List.drop_eq_nil_iff, List.length_append, List.length_replicate]
      omega
    · rw [List.all_eq_true]
      intro c hc
      have hall := all_isDigit_zeros_append d.digits (e + 1 + 1 - (digitChars d.digits).length)
      exact List.all_eq_true.mp hall c (List.mem_of_mem_drop hc)

theorem isWhole_singleton {c : Char} (hc : c.isDigit) : isWhole [c] := by
  by_cases hzero : c = '0'
  · simp [isWhole, hzero]
  · exact isWhole_of_head? (by simp [isDigits, hc]) (by simpa using hzero)

theorem exists_sign (power : Int) :
    ∃ sign, (sign = '+' ∨ sign = '-') ∧ (if power < 0 then "-" else "+").toList = [sign] := by
  by_cases hnegative : power < 0
  · exact ⟨'-', Or.inr rfl, by simp [hnegative]⟩
  · exact ⟨'+', Or.inl rfl, by simp [hnegative]⟩

theorem isMagnitude_scientific (d : Decimal) : IsMagnitude d.scientific.toList := by
  obtain ⟨sign, hsign, htext⟩ := exists_sign d.firstPower
  have hexponent : IsExponent ('e' :: sign :: digitChars d.firstPower.natAbs) :=
    .signed (Or.inl rfl) hsign (isDigits_digitChars _)
  have hdigit : ∀ c ∈ digitChars d.digits, c.isDigit := fun c hc => isDigit_of_mem_digitChars hc
  cases hdigits : digitChars d.digits with
  | nil =>
      exact absurd hdigits Nat.toDigits_ne_nil
  | cons first rest =>
      rw [hdigits] at hdigit
      have hfirst := isWhole_singleton (hdigit first List.mem_cons_self)
      cases rest with
      | nil =>
          have hlayout : d.scientific.toList =
              [first] ++ [] ++ 'e' :: sign :: digitChars d.firstPower.natAbs := by
            simp [scientific, natText, hdigits, htext]
          rw [hlayout]
          exact .intro hfirst .none hexponent
      | cons second others =>
          have hlayout : d.scientific.toList =
              [first] ++ '.' :: second :: others ++
                'e' :: sign :: digitChars d.firstPower.natAbs := by
            simp [scientific, natText, hdigits, htext]
          have hall : (second :: others).all Char.isDigit := by
            rw [List.all_eq_true]
            exact fun c hc => hdigit c (List.mem_cons_of_mem _ hc)
          rw [hlayout]
          exact .intro hfirst (.some (isDigits_of_all (by simp) hall)) hexponent

/-! ## Shortest digits -/

theorem dropZeros_digits_ne_zero {fuel digits : Nat} {exponent : Int} (hdigits : digits ≠ 0) :
    (dropZeros fuel digits exponent).digits ≠ 0 := by
  induction fuel generalizing digits exponent with
  | zero =>
      exact hdigits
  | succ fuel ih =>
      rw [dropZeros]
      split
      · rename_i hten
        simp only [Bool.and_eq_true, bne_iff_ne, beq_iff_eq] at hten
        exact ih (by omega)
      · exact hdigits

theorem Grid.holds_zero {grid : Grid} (hlow : 0 < grid.low) (hscale : 0 < grid.scale) :
    grid.holds 0 = false := by
  have hpos : 0 < grid.low * grid.scale := Nat.mul_pos hlow hscale
  unfold Grid.holds
  dsimp only
  split
  · simp
    omega
  · simp

theorem Grid.holds_of_nearest? {grid : Grid} {point : Nat} (hnearest : grid.nearest? = some point) :
    grid.holds point := by
  unfold Grid.nearest? at hnearest
  dsimp only at hnearest
  split at hnearest
  · rename_i hbelow habove
    split at hnearest
    · obtain rfl := Option.some.inj hnearest
      exact hbelow
    · obtain rfl := Option.some.inj hnearest
      exact habove
  · rename_i hbelow habove
    obtain rfl := Option.some.inj hnearest
    exact hbelow
  · rename_i hbelow habove
    obtain rfl := Option.some.inj hnearest
    exact habove
  · cases hnearest

theorem gridOf_low_pos {x : Binary64} (hx : x.significand ≠ 0) (power : Int) :
    0 < (gridOf x power).low := by
  unfold gridOf
  dsimp only
  split <;> omega

theorem gridOf_scale_pos (x : Binary64) (power : Int) : 0 < (gridOf x power).scale := by
  have hpow : ∀ base count : Nat, 0 < base → 0 < Nat.pow base count :=
    fun base count hbase => Nat.pow_pos hbase
  unfold gridOf
  dsimp only
  split <;> split <;> simp only [Nat.mul_pos, hpow, Nat.zero_lt_succ]

theorem isNormal_shortestFrom {x : Binary64} (hx : x.significand ≠ 0) (leading : Int)
    (fuel digits : Nat) : IsNormal (shortestFrom x leading fuel digits) := by
  induction fuel generalizing digits with
  | zero =>
      exact fun _ => rfl
  | succ fuel ih =>
      rw [shortestFrom]
      split
      · rename_i point hnearest
        have hpoint : point ≠ 0 := by
          rintro rfl
          have hholds := Grid.holds_of_nearest? hnearest
          rw [Grid.holds_zero (gridOf_low_pos hx _) (gridOf_scale_pos x _)] at hholds
          cases hholds
        exact fun hzero => absurd hzero (dropZeros_digits_ne_zero hpoint)
      · exact ih (digits + 1)

theorem isNormal_shortest (x : Binary64) : IsNormal (shortest x) := by
  unfold shortest
  split
  · exact fun _ => rfl
  · rename_i hzero
    exact isNormal_shortestFrom (by simpa [Binary64.isZero] using hzero) _ _ _

end Decimal

namespace Json

theorem isNumber_shortText (x : Binary64) : IsNumber x.shortText.toList := by
  have hmagnitude : IsMagnitude (if -5 ≤ (Decimal.shortest x).firstPower &&
      (Decimal.shortest x).firstPower < 16 then (Decimal.shortest x).positional
      else (Decimal.shortest x).scientific).toList := by
    split
    · exact Decimal.isMagnitude_positional (Decimal.isNormal_shortest x)
    · exact Decimal.isMagnitude_scientific _
  unfold Binary64.shortText Binary64.signText
  dsimp only
  rw [String.toList_append]
  split
  · exact .negative hmagnitude
  · exact .positive hmagnitude

/-- Numbers are written as numbers. -/
theorem isNumber_numberText (value : Number) : IsNumber (numberText value).toList := by
  cases value with
  | integer value => exact Decimal.isNumber_intText value.value
  | real value => exact isNumber_shortText value

end Json

end Toolbench
