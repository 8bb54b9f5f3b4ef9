import Depot.Checksum.Crc32
import Depot.Text.Numeral

/-!
The checksum record at the end of an index file: a magic number, the number of the checksum
algorithm, and the checksum itself, all with their most significant byte first. The checksum covers
every byte before its own field, the magic number and the algorithm included.
-/

namespace Depot

/-- What a record says about its file. -/
structure Footer where
  algorithm : UInt32
  checksum : UInt64
  deriving DecidableEq, Repr

/-- Why bytes are not a record, or not the record of their file. -/
inductive FooterError where
  | length (found : Nat)
  | magic (found : UInt32)
  | algorithm (found : UInt32)
  | illegalChecksum (found : UInt64)
  | mismatch (expected actual : UInt64)
  deriving DecidableEq, Repr

namespace Footer

def magic : UInt32 := 0xC02893E8

def crc32Algorithm : UInt32 := 0

def size : Nat := 16

/-- How many bytes of a record its own checksum covers. -/
def coveredSize : Nat := 8

end Footer

namespace FooterError

def message : FooterError → String
  | .length found => s!"footer must be 16 bytes, got {found}"
  | .magic found =>
      "codec footer mismatch: actual footer=0x" ++ Numeral.hexNumber 8 found.toNat ++
        " vs expected footer=0x" ++ Numeral.hexNumber 8 Footer.magic.toNat
  | .algorithm found => "unknown checksum algorithm: " ++ toString found.toNat
  | .illegalChecksum found => "illegal CRC-32 checksum: " ++ toString found.toNat
  | .mismatch expected actual =>
      "checksum failed: expected=0x" ++ Numeral.hexNumber 1 expected.toNat ++
        " actual=0x" ++ Numeral.hexNumber 1 actual.toNat

end FooterError

namespace Footer

/-- The record with a CRC-32 checksum. -/
def crc32 (checksum : UInt32) : Footer := ⟨crc32Algorithm, checksum.toUInt64⟩

/-- The bytes of a record that its checksum covers. -/
def covered : ByteArray := Bytes.ofWord magic ++ Bytes.ofWord crc32Algorithm

/-- The record of a file whose bytes before the record are `body`. -/
def ofBody (body : ByteArray) : Footer :=
  crc32 (Crc32.finish (Crc32.update (Crc32.update Crc32.start body) covered))

def encode (footer : Footer) : ByteArray :=
  Bytes.ofWord magic ++ Bytes.ofWord footer.algorithm ++ Bytes.ofDoubleWord footer.checksum

/-- Read a record. The length is looked at first, then the magic number, the algorithm and the
range of the checksum. -/
def decode (data : ByteArray) : Except FooterError Footer :=
  if data.size ≠ size then .error (.length data.size)
  else
    let found := UInt32.ofNat (Bytes.toNat (data.extract 0 4))
    let algorithm := UInt32.ofNat (Bytes.toNat (data.extract 4 8))
    let checksum := UInt64.ofNat (Bytes.toNat (data.extract 8 16))
    if found ≠ magic then .error (.magic found)
    else if algorithm ≠ crc32Algorithm then .error (.algorithm algorithm)
    else if checksum >>> 32 ≠ 0 then .error (.illegalChecksum checksum)
    else .ok ⟨algorithm, checksum⟩

/-- Compare the checksum of a record with that of the bytes before it. -/
def verify (footer : Footer) (actual : UInt64) : Except FooterError Unit :=
  if footer.checksum = actual then .ok () else .error (.mismatch footer.checksum actual)

/-- A complete index file: the body and its record. -/
def sealed (body : ByteArray) : ByteArray := body ++ (ofBody body).encode

end Footer

end Depot
