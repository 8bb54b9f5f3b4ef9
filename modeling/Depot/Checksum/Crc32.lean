import Depot.Bytes

/-!
CRC-32 as IEEE 802.3 defines it, in the reflected form. The register takes in one byte after the
other, so the register after two arrays put together is the register after the second started from
the register after the first.
-/

namespace Depot.Crc32

/-- The reflected generator polynomial. -/
def polynomial : UInt32 := 0xEDB88320

/-- Divide out one bit. -/
def shift (register : UInt32) : UInt32 :=
  if register &&& 1 = 1 then (register >>> 1) ^^^ polynomial else register >>> 1

def absorb (register : UInt32) (byte : UInt8) : UInt32 :=
  shift (shift (shift (shift (shift (shift (shift (shift (register ^^^ byte.toUInt32))))))))

def start : UInt32 := 0xFFFFFFFF

def update (register : UInt32) (data : ByteArray) : UInt32 := Bytes.fold absorb register data

def finish (register : UInt32) : UInt32 := register ^^^ 0xFFFFFFFF

def checksum (data : ByteArray) : UInt32 := finish (update start data)

theorem update_append (register : UInt32) (first second : ByteArray) :
    update register (first ++ second) = update (update register first) second :=
  Bytes.fold_append absorb register first second

end Depot.Crc32
