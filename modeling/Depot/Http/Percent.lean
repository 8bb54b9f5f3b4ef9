import Depot.Text.Numeral

/-!
Percent-encoding: bytes of a text's UTF-8 form written as a percent sign and two hexadecimal digits.
Which characters are kept as they are is up to those who use it.
-/

namespace Depot.Http.Percent

/-- The written form of a byte: a percent sign and two capital hexadecimal digits. -/
def encodedByte (byte : UInt8) : List Char := '%' :: (Numeral.hexByte byte).map Char.toUpper

/-- A text with all characters encoded that are not kept. -/
def encode (keeps : Char → Bool) (text : List Char) : List Char :=
  text.flatMap fun character =>
    if keeps character then [character]
    else (String.utf8EncodeChar character).flatMap encodedByte

def byteOf? (high low : UInt8) : Option UInt8 :=
  let digits := [Char.ofNat high.toNat, Char.ofNat low.toNat]
  if digits.all Numeral.isHexDigit then some (UInt8.ofNat (Numeral.valueOf 16 digits)) else none

/-- Bytes with those decoded that are written as a percent sign and two digits. -/
def decode : List UInt8 → List UInt8
  | 0x25 :: high :: low :: rest =>
      match byteOf? high low with
      | some byte => byte :: decode rest
      | none => 0x25 :: decode (high :: low :: rest)
  | byte :: rest => byte :: decode rest
  | [] => []

example : encode Char.isAlphanum "aé%".toList = "a%C3%A9%25".toList := by decide +kernel
example : decode "a%4g%4A".toUTF8.toList = "a%4gJ".toUTF8.toList := by decide +kernel

end Depot.Http.Percent
