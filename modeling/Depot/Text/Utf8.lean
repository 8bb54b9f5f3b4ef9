/-!
Reading bytes as text. Bytes that are no UTF-8 are read as the replacement character, once for each
longest run of bytes that could have begun a character.
-/

namespace Depot.Utf8

/-- The character that stands for bytes that are no text. -/
def replacement : Char := Char.ofNat 0xFFFD

/-- What a first byte asks for: how many bytes follow, the bits it gives, and the least and the
greatest byte that may come next. -/
def leading? (byte : Nat) : Option (Nat × Nat × Nat × Nat) :=
  if byte < 0x80 then some (0, byte, 0x80, 0xBF)
  else if byte < 0xC2 then none
  else if byte < 0xE0 then some (1, byte - 0xC0, 0x80, 0xBF)
  else if byte = 0xE0 then some (2, 0, 0xA0, 0xBF)
  else if byte = 0xED then some (2, 0xD, 0x80, 0x9F)
  else if byte < 0xF0 then some (2, byte - 0xE0, 0x80, 0xBF)
  else if byte = 0xF0 then some (3, 0, 0x90, 0xBF)
  else if byte < 0xF4 then some (3, byte - 0xF0, 0x80, 0xBF)
  else if byte = 0xF4 then some (3, 4, 0x80, 0x8F)
  else none

/-- A character that is being read: how many bytes are still to come, the bits so far, and the
range of the next byte. -/
structure Pending where
  count : Nat
  bits : Nat
  least : Nat
  greatest : Nat

/-- Start a character at a byte, or replace it. -/
def start (byte : UInt8) : List Char × Option Pending :=
  match leading? byte.toNat with
  | none => ([replacement], none)
  | some (0, bits, _, _) => ([Char.ofNat bits], none)
  | some (count, bits, least, greatest) => ([], some ⟨count, bits, least, greatest⟩)

/-- Read the rest of the bytes after a character that may be unfinished. -/
def readFrom : Option Pending → List UInt8 → List Char
  | none, [] => []
  | some _, [] => [replacement]
  | none, byte :: rest =>
      let (done, pending) := start byte
      done ++ readFrom pending rest
  | some pending, byte :: rest =>
      if pending.least ≤ byte.toNat ∧ byte.toNat ≤ pending.greatest then
        let bits := pending.bits * 64 + (byte.toNat - 0x80)
        if pending.count = 1 then Char.ofNat bits :: readFrom none rest
        else readFrom (some ⟨pending.count - 1, bits, 0x80, 0xBF⟩) rest
      else
        let (done, next) := start byte
        replacement :: done ++ readFrom next rest

def decode (bytes : ByteArray) : String :=
  match String.fromUTF8? bytes with
  | some text => text
  | none => String.ofList (readFrom none bytes.toList)

/-- Text is read as it was written. -/
theorem decode_toUTF8 (text : String) : decode text.toUTF8 = text := by
  have read : String.fromUTF8? text.toUTF8 = some text := dif_pos text.isValidUTF8
  rw [decode, read]

end Depot.Utf8
