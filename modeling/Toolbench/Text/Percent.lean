import Toolbench.Text.Hex
import Toolbench.Text.Utf8

/-!
# Percent-encoding

Characters outside of a set are written as their UTF-8 bytes, each as a percent
sign and two hexadecimal digits.
-/

namespace Toolbench

namespace Text

namespace Percent

def triplet (byte : UInt8) : List Char :=
  ['%', Hex.upper (byte.toNat / 16), Hex.upper (byte.toNat % 16)]

/-- A character, encoded unless the set of characters that stay holds it. -/
def encodeChar (stays : Char → Bool) (c : Char) : List Char :=
  if stays c then [c] else (Utf8.encodeChar c).flatMap triplet

def encode (stays : Char → Bool) (text : List Char) : List Char :=
  text.flatMap (encodeChar stays)

/-- The bytes that a text stands for; a percent sign without two digits is itself. -/
def decode : List Char → Bytes
  | [] => []
  | '%' :: high :: low :: rest =>
      match Hex.value? high, Hex.value? low with
      | some h, some l => UInt8.ofNat (16 * h + l) :: decode rest
      | _, _ => Utf8.encodeChar '%' ++ decode (high :: low :: rest)
  | c :: rest => Utf8.encodeChar c ++ decode rest

def isPlain (c : Char) : Bool :=
  0x20 ≤ c.toNat && c.toNat < 0x7F

/-- The characters that may stand in any part of an address: letters, digits and four marks. -/
def isUnreserved (c : Char) : Bool :=
  c.isAlphanum || c = '-' || c = '.' || c = '_' || c = '~'

end Percent

end Text

end Toolbench
