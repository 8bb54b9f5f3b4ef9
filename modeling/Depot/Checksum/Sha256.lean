import Depot.Bytes
import Depot.Text.Numeral

/-!
SHA-256 and the message authentication code built on it (FIPS 180-4 and HMAC).
-/

namespace Depot.Sha256

def roundConstants : Array UInt32 := #[
  0x428a2f98, 0x71374491, 0xb5c0fbcf, 0xe9b5dba5, 0x3956c25b, 0x59f111f1, 0x923f82a4, 0xab1c5ed5,
  0xd807aa98, 0x12835b01, 0x243185be, 0x550c7dc3, 0x72be5d74, 0x80deb1fe, 0x9bdc06a7, 0xc19bf174,
  0xe49b69c1, 0xefbe4786, 0x0fc19dc6, 0x240ca1cc, 0x2de92c6f, 0x4a7484aa, 0x5cb0a9dc, 0x76f988da,
  0x983e5152, 0xa831c66d, 0xb00327c8, 0xbf597fc7, 0xc6e00bf3, 0xd5a79147, 0x06ca6351, 0x14292967,
  0x27b70a85, 0x2e1b2138, 0x4d2c6dfc, 0x53380d13, 0x650a7354, 0x766a0abb, 0x81c2c92e, 0x92722c85,
  0xa2bfe8a1, 0xa81a664b, 0xc24b8b70, 0xc76c51a3, 0xd192e819, 0xd6990624, 0xf40e3585, 0x106aa070,
  0x19a4c116, 0x1e376c08, 0x2748774c, 0x34b0bcb5, 0x391c0cb3, 0x4ed8aa4a, 0x5b9cca4f, 0x682e6ff3,
  0x748f82ee, 0x78a5636f, 0x84c87814, 0x8cc70208, 0x90befffa, 0xa4506ceb, 0xbef9a3f7, 0xc67178f2]

/-- The eight words between two blocks. -/
structure State where
  a : UInt32
  b : UInt32
  c : UInt32
  d : UInt32
  e : UInt32
  f : UInt32
  g : UInt32
  h : UInt32

def initial : State where
  a := 0x6a09e667
  b := 0xbb67ae85
  c := 0x3c6ef372
  d := 0xa54ff53a
  e := 0x510e527f
  f := 0x9b05688c
  g := 0x1f83d9ab
  h := 0x5be0cd19

def rotateRight (word amount : UInt32) : UInt32 :=
  (word >>> amount) ||| (word <<< (32 - amount))

/-- The byte at a position; zero behind the end. -/
def byteAt (data : ByteArray) (position : Nat) : UInt32 :=
  if inside : position < data.size then data[position].toUInt32 else 0

/-- The word that starts at a position, its most significant byte first. -/
def wordAt (data : ByteArray) (position : Nat) : UInt32 :=
  (byteAt data position <<< 24) ||| (byteAt data (position + 1) <<< 16) |||
    (byteAt data (position + 2) <<< 8) ||| byteAt data (position + 3)

def blockWords (data : ByteArray) (position : Nat) : Array UInt32 :=
  (List.range 16).foldl (fun words index => words.push (wordAt data (position + 4 * index)))
    (Array.mkEmpty 64)

/-- Stretch the words of a block by `count` more words. -/
def extend (words : Array UInt32) : (count : Nat) → Array UInt32
  | 0 => words
  | count + 1 =>
      let size := words.size
      let fifteenth := words.getD (size - 15) 0
      let second := words.getD (size - 2) 0
      let small := rotateRight fifteenth 7 ^^^ rotateRight fifteenth 18 ^^^ (fifteenth >>> 3)
      let large := rotateRight second 17 ^^^ rotateRight second 19 ^^^ (second >>> 10)
      extend
        (words.push (words.getD (size - 16) 0 + small + words.getD (size - 7) 0 + large)) count

/-- The last `count` of the 64 rounds. -/
def rounds (words : Array UInt32) (a b c d e f g h : UInt32) : (count : Nat) → State
  | 0 => { a, b, c, d, e, f, g, h }
  | count + 1 =>
      let index := 63 - count
      let mixedE := rotateRight e 6 ^^^ rotateRight e 11 ^^^ rotateRight e 25
      let choice := (e &&& f) ^^^ ((e ^^^ 0xFFFFFFFF) &&& g)
      let first := h + mixedE + choice + roundConstants.getD index 0 + words.getD index 0
      let mixedA := rotateRight a 2 ^^^ rotateRight a 13 ^^^ rotateRight a 22
      let majority := (a &&& b) ^^^ (a &&& c) ^^^ (b &&& c)
      rounds words (first + mixedA + majority) a b c (d + first) e f g count

def compress (state : State) (data : ByteArray) (position : Nat) : State :=
  let words := extend (blockWords data position) 48
  let mixed := rounds words state.a state.b state.c state.d state.e state.f state.g state.h 64
  { a := state.a + mixed.a
    b := state.b + mixed.b
    c := state.c + mixed.c
    d := state.d + mixed.d
    e := state.e + mixed.e
    f := state.f + mixed.f
    g := state.g + mixed.g
    h := state.h + mixed.h }

/-- Take `count` blocks from a position on into the state. -/
def absorb (data : ByteArray) (state : State) (position : Nat) : (count : Nat) → State
  | 0 => state
  | count + 1 => absorb data (compress state data position) (position + 64) count

/-- The message with a one bit, zeros up to the next block but eight bytes, and its length in
bits. -/
def padded (message : ByteArray) : ByteArray :=
  let zeros := (64 - (message.size + 9) % 64) % 64
  message ++ Bytes.ofList (0x80 :: List.replicate zeros 0) ++
    Bytes.ofDoubleWord (UInt64.ofNat (message.size * 8))

/-- The digest of a message, 32 bytes. -/
def digest (message : ByteArray) : ByteArray :=
  let blocks := padded message
  let state := absorb blocks initial 0 (blocks.size / 64)
  Bytes.ofWord state.a ++ Bytes.ofWord state.b ++ Bytes.ofWord state.c ++ Bytes.ofWord state.d ++
    Bytes.ofWord state.e ++ Bytes.ofWord state.f ++ Bytes.ofWord state.g ++ Bytes.ofWord state.h

def hexDigest (message : ByteArray) : String := Numeral.hex (digest message)

/-- The key brought to the length of a block: a longer one is replaced by its digest. -/
def blockKey (key : ByteArray) : ByteArray :=
  let short := if key.size > 64 then digest key else key
  short ++ Bytes.ofList (List.replicate (64 - short.size) 0)

def masked (key : ByteArray) (mask : UInt8) : ByteArray :=
  Bytes.ofList (key.toList.map (· ^^^ mask))

def authenticate (key message : ByteArray) : ByteArray :=
  let block := blockKey key
  digest (masked block 0x5c ++ digest (masked block 0x36 ++ message))

end Depot.Sha256
