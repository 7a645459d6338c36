import Toolbench.Proofs.Text.Percent
import Toolbench.Url.Parser

/-!
# Dots in encoded texts

A dot at the start of an encoded text is a dot of the text: no other character is encoded as
one, nor as the spelling of an encoded one.
-/

namespace Toolbench

namespace Url

open Text.Percent

theorem upper_digits_of_dot : ∀ high < 16, ∀ low < 16,
    Text.Hex.upper high = '2' → (Text.Hex.upper low = 'e' ∨ Text.Hex.upper low = 'E') →
      16 * high + low = 0x2E := by
  decide

theorem dropDot?_triplet {byte : UInt8} (hbyte : byte.toNat ≠ 0x2E) (text : List Char) :
    dropDot? (triplet byte ++ text) = none := by
  have hsmall : byte.toNat < 256 := byte.toNat_lt
  have hdigits := upper_digits_of_dot (byte.toNat / 16) (by omega) (byte.toNat % 16) (by omega)
  have hsum : 16 * (byte.toNat / 16) + byte.toNat % 16 = byte.toNat := Nat.div_add_mod _ _
  rw [hsum] at hdigits
  unfold dropDot? triplet
  split
  · rename_i hdot
    cases hdot
  · rename_i hdot
    simp only [List.cons_append, List.nil_append, List.cons.injEq, true_and] at hdot
    exact absurd (hdigits hdot.1 (Or.inl hdot.2.1)) hbyte
  · rename_i hdot
    simp only [List.cons_append, List.nil_append, List.cons.injEq, true_and] at hdot
    exact absurd (hdigits hdot.1 (Or.inr hdot.2.1)) hbyte
  · rfl

theorem dropDot?_cons {c : Char} (hdot : c ≠ '.') (hpercent : c ≠ '%') (text : List Char) :
    dropDot? (c :: text) = none := by
  unfold dropDot?
  split <;> simp_all

theorem dropDot?_encode {c : Char} {more text rest : List Char}
    (hdot : dropDot? (encode isUnreserved (c :: more) ++ text) = some rest) :
    c = '.' ∧ rest = encode isUnreserved more ++ text := by
  have hencode : encode isUnreserved (c :: more) ++ text =
      encodeChar isUnreserved c ++ (encode isUnreserved more ++ text) := by
    simp [encode]
  rw [hencode] at hdot
  by_cases hc : c = '.'
  · subst hc
    refine ⟨rfl, ?_⟩
    exact (Option.some.inj hdot).symm
  · exfalso
    unfold encodeChar at hdot
    split at hdot
    · rename_i hstays
      have hpercent : c ≠ '%' := by
        rintro rfl
        exact absurd hstays (by decide)
      rw [List.singleton_append, dropDot?_cons hc hpercent] at hdot
      cases hdot
    · obtain ⟨byte, bytes, hbytes, hbyte⟩ := exists_first_byte hc
      rw [hbytes, List.flatMap_cons, List.append_assoc, dropDot?_triplet hbyte] at hdot
      cases hdot

end Url

end Toolbench
