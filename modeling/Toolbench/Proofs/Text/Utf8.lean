import Toolbench.Text.Utf8

/-!
# Bytes of texts

The bytes of a character are those of the standard encoding, so no two texts have the same bytes.
-/

namespace Toolbench

namespace Text

namespace Utf8

theorem encodeChar_eq (c : Char) : encodeChar c = String.utf8EncodeChar c := by
  have hvalid := c.valid
  simp only [UInt32.isValidChar, Nat.isValidChar] at hvalid
  have hcode : c.toNat = c.val.toNat := rfl
  unfold encodeChar String.utf8EncodeChar
  rw [hcode]
  by_cases hone : c.val.toNat < 0x80
  · rw [if_pos hone, if_pos (by omega)]
  · by_cases htwo : c.val.toNat < 0x800
    · have hlead : 0xC0 + c.val.toNat / 0x40 = c.val.toNat / 64 % 32 + 192 := by omega
      have hlast : 0x80 + c.val.toNat % 0x40 = c.val.toNat % 64 + 128 := by omega
      rw [if_neg hone, if_pos htwo, if_neg (by omega), if_pos (by omega), hlead, hlast]
    · have hlast : 0x80 + c.val.toNat % 0x40 = c.val.toNat % 64 + 128 := by omega
      have hnext : 0x80 + c.val.toNat / 0x40 % 0x40 = c.val.toNat / 64 % 64 + 128 := by omega
      by_cases hthree : c.val.toNat < 0x10000
      · have hlead : 0xE0 + c.val.toNat / 0x1000 = c.val.toNat / 4096 % 16 + 224 := by omega
        rw [if_neg hone, if_neg htwo, if_pos hthree, if_neg (by omega), if_neg (by omega),
          if_pos (by omega), hlead, hnext, hlast]
      · have hlead : 0xF0 + c.val.toNat / 0x40000 = c.val.toNat / 262144 % 8 + 240 := by omega
        have hsecond : 0x80 + c.val.toNat / 0x1000 % 0x40 = c.val.toNat / 4096 % 64 + 128 := by
          omega
        rw [if_neg hone, if_neg htwo, if_neg hthree, if_neg (by omega), if_neg (by omega),
          if_neg (by omega), hlead, hsecond, hnext, hlast]

theorem encodeChars_injective : Function.Injective encodeChars := by
  intro left right hsame
  have hbytes : left.flatMap String.utf8EncodeChar = right.flatMap String.utf8EncodeChar := by
    simpa only [encodeChars, funext encodeChar_eq] using hsame
  have hencoded : left.utf8Encode = right.utf8Encode := congrArg List.toByteArray hbytes
  have hdecoded := congrArg ByteArray.utf8Decode? hencoded
  rw [List.utf8Decode?_utf8Encode, List.utf8Decode?_utf8Encode, Option.some.injEq] at hdecoded
  exact congrArg Array.toList hdecoded

end Utf8

end Text

end Toolbench
