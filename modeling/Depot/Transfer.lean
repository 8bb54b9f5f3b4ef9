import Depot.Client.Call
import Depot.Footer

/-!
Copies between local streams and the object store, in chunks. An upload passes the body of an index
file through, checks the record at the end of the file against the bytes that were read, and stores
a record made anew in its place. A download passes all bytes through.
-/

namespace Depot

/-- A local file opened for reading. -/
structure IndexInput where
  name : String
  length : Nat
  reader : Reader

/-- A directory that index files are copied from. -/
structure IndexSource where
  openInput : (name : String) → Except RepoError IndexInput
  /-- The length of the checksum record that every file ends with. -/
  footerLength : Nat

namespace Transfer

/-- The size of a chunk if nothing else is said, 16 MiB. -/
def defaultChunkSize : Nat := 16777216

def tooSmall (source : IndexInput) : RepoError :=
  .corruptSource source.name ("file is too small: " ++ toString source.length)

/-! ## Upload -/

/-- Write the next `remaining` bytes of a reader to an upload, in chunks of at most `chunkSize`
bytes, of which zero counts as one. The result is the reader behind these bytes and the checksum
register with these bytes taken in; the upload is handed back in any case. -/
def writeBody (chunkSize : Nat) (reader : Reader) (register : UInt32) (upload : Upload)
    (remaining : Nat) : StoreDialogue (Except RepoError (Reader × UInt32) × Upload) :=
  if remaining = 0 then .done (.ok (reader, register), upload)
  else
    let size := min remaining (max chunkSize 1)
    match reader.readExactly size with
    | .error cause => .done (.error (.io cause), upload)
    | .ok (chunk, reader) =>
        .ask (.write upload chunk) fun (written, upload) =>
          match written with
          | .error error => .done (.error error, upload)
          | .ok () =>
              writeBody chunkSize reader (Crc32.update register chunk) upload (remaining - size)
termination_by remaining

/-- Check the record of a file against the register of its body. The result is the record as it is
stored. -/
def checkedFooter (name : String) (register : UInt32) (footer : ByteArray) :
    Except RepoError Footer :=
  let actual := Crc32.finish (Crc32.update register (footer.extract 0 Footer.coveredSize))
  let checked : Except FooterError Unit := do (← Footer.decode footer).verify actual.toUInt64
  match checked with
  | .error error => .error (.corruptSource name error.message)
  | .ok () => .ok (Footer.crc32 actual)

/-- Write a whole file to an upload: the body as it is, and the record made anew. The result is the
number of bytes written. -/
def writeFile (chunkSize : Nat) (source : IndexInput) (footerLength : Nat) (upload : Upload) :
    StoreDialogue (Except RepoError Nat × Upload) := do
  let bodyLength := source.length - footerLength
  let (body, upload) ← writeBody chunkSize source.reader Crc32.start upload bodyLength
  match body with
  | .error error => return (.error error, upload)
  | .ok (reader, register) =>
      match reader.readExactly footerLength with
      | .error cause => return (.error (.io cause), upload)
      | .ok (footer, _) =>
          match checkedFooter source.name register footer with
          | .error error => return (.error error, upload)
          | .ok footer =>
              let (written, upload) ← Client.write upload footer.encode
              return (written.map fun _ => bodyLength + Footer.size, upload)

/-- Store a local file at a key. The result is the number of bytes stored. A file that is not
longer than its record is refused before the store is asked for anything, and an upload that fails
on the way is aborted. -/
def intoStore (chunkSize : Nat) (source : IndexInput) (footerLength : Nat) (target : ObjectKey) :
    StoreTask Nat := ExceptT.mk do
  if source.length ≤ footerLength then return .error (tooSmall source)
  match ← (Client.openWrite target).run with
  | .error error => return .error error
  | .ok upload =>
      match ← writeFile chunkSize source footerLength upload with
      | (.ok size, upload) =>
          match ← (Client.finish upload).run with
          | .error error => return .error (error.inTransfer target.text)
          | .ok () => return .ok size
      | (.error error, upload) =>
          Client.abort upload
          return .error (error.inTransfer target.text)

/-! ## Download -/

/-- Copy what a reader holds to a destination, in chunks. The result is the number of bytes copied;
the destination is handed back in any case. -/
def copyAll (chunkSize : Nat) (reader : Reader) (destination : Destination) (copied : Nat) :
    (left : Nat) → Except IoCause Nat × Destination
  | 0 => (destination.flush.map fun _ => copied, destination)
  | left + 1 =>
      match reader.fill (max chunkSize 1) .empty with
      | .error cause => (.error cause, destination)
      | .ok (chunk, reader) =>
          if chunk.size = 0 then (destination.flush.map fun _ => copied, destination)
          else
            match destination.writeAll chunk with
            | (.error cause, destination) => (.error cause, destination)
            | (.ok (), destination) =>
                copyAll chunkSize reader destination (copied + chunk.size) left

/-- Copy the object at a key to a destination, which is shut down in any case. A failure of the
copy counts before a failure of the shutdown. -/
def outOfStore (chunkSize : Nat) (source : ObjectKey) (destination : Destination) :
    StoreDialogue (Except RepoError Nat × Destination) := do
  match ← (Client.openRead source).run with
  | .error error => return (.error error, destination.shutdown.2)
  | .ok reader =>
      let (copied, destination) := copyAll chunkSize reader destination 0 (reader.remaining + 1)
      let (closed, destination) := destination.shutdown
      let result := do
        let copied ← copied
        closed
        return copied
      return (result.mapError fun cause => RepoError.inTransfer source.text (.io cause),
        destination)

end Transfer

end Depot
