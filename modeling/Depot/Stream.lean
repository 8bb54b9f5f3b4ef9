import Depot.Error

/-!
Streams of bytes. A reader hands out its bytes in pieces of its own choice and ends either well or
with a failure; a destination takes bytes and may fail at a limit, when it is flushed or when it is
shut down.
-/

namespace Depot

structure Reader where
  /-- The bytes the stream holds before it ends or fails. -/
  bytes : ByteArray
  position : Nat
  /-- The failure behind the last byte, if the stream does not end well. -/
  failure : Option IoCause
  /-- How many bytes the stream hands out at once, by position. A pace of zero counts as one. -/
  pace : Nat → Nat

namespace Reader

def ofBytes (bytes : ByteArray) : Reader where
  bytes := bytes
  position := 0
  failure := none
  pace := fun _ => bytes.size

/-- The same bytes, at most `step` of them at once. -/
def withPace (reader : Reader) (step : Nat) : Reader := { reader with pace := fun _ => step }

/-- A reader that fails where the reader would hand out the byte at `count`. A stream that is
shorter ends well. -/
def failingAfter (reader : Reader) (count : Nat) (cause : IoCause) : Reader :=
  if count ≤ reader.bytes.size then
    { reader with bytes := reader.bytes.extract 0 count, failure := some cause }
  else reader

def remaining (reader : Reader) : Nat := reader.bytes.size - reader.position

/-- The size of the piece handed out when `wanted` bytes are asked for. -/
def pieceSize (reader : Reader) (wanted : Nat) : Nat :=
  min wanted (min (max 1 (reader.pace reader.position)) reader.remaining)

/-- Ask for up to `wanted` bytes. No bytes means that the stream has ended. -/
def read (reader : Reader) (wanted : Nat) : Except IoCause (ByteArray × Reader) :=
  if reader.remaining = 0 then
    match reader.failure with
    | some cause => .error cause
    | none => .ok (.empty, reader)
  else
    let size := reader.pieceSize wanted
    .ok (reader.bytes.extract reader.position (reader.position + size),
      { reader with position := reader.position + size })

/-- Read until `wanted` more bytes are there or the stream ends. -/
def fill (reader : Reader) (wanted : Nat) (filled : ByteArray) :
    Except IoCause (ByteArray × Reader) :=
  if wanted = 0 then .ok (filled, reader)
  else
    match reader.read wanted with
    | .error cause => .error cause
    | .ok (piece, reader) =>
        if piece.size = 0 then .ok (filled, reader)
        else reader.fill (wanted - piece.size) (filled ++ piece)
termination_by wanted

/-- Read exactly `wanted` bytes; a stream that ends before is an error. -/
def readExactly (reader : Reader) (wanted : Nat) : Except IoCause (ByteArray × Reader) :=
  match reader.fill wanted .empty with
  | .error cause => .error cause
  | .ok (bytes, reader) => if bytes.size < wanted then .error .earlyEnd else .ok (bytes, reader)

def readAll (reader : Reader) : Except IoCause ByteArray :=
  match reader.fill (reader.remaining + 1) .empty with
  | .error cause => .error cause
  | .ok (bytes, _) => .ok bytes

end Reader

structure Destination where
  received : ByteArray
  /-- How many bytes the destination takes, and the failure at the next one. -/
  limit : Option (Nat × IoCause)
  flushFailure : Option IoCause
  shutdownFailure : Option IoCause
  /-- How often the destination was shut down. -/
  shutdowns : Nat

namespace Destination

def unlimited : Destination where
  received := .empty
  limit := none
  flushFailure := none
  shutdownFailure := none
  shutdowns := 0

/-- Write all bytes, or as many as are taken before the failure. -/
def writeAll (destination : Destination) (bytes : ByteArray) : Except IoCause Unit × Destination :=
  match destination.limit with
  | none => (.ok (), { destination with received := destination.received ++ bytes })
  | some (limit, cause) =>
      let room := limit - destination.received.size
      if bytes.size ≤ room then
        (.ok (), { destination with received := destination.received ++ bytes })
      else
        (.error cause,
          { destination with received := destination.received ++ bytes.extract 0 room })

/-- The outcome of a step that fails if there is a cause. -/
def outcome : Option IoCause → Except IoCause Unit
  | some cause => .error cause
  | none => .ok ()

def flush (destination : Destination) : Except IoCause Unit := outcome destination.flushFailure

def shutdown (destination : Destination) : Except IoCause Unit × Destination :=
  (outcome destination.shutdownFailure,
    { destination with shutdowns := destination.shutdowns + 1 })

end Destination

end Depot
