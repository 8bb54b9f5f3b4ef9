import Depot.Local.Tree
import Depot.Transfer

/-!
The local directory that holds the files of an index. File names are relative and never lead out of
the directory, and a file that exists is never written to.
-/

namespace Depot.Local

/-- Whether a file name stays inside its directory: it is relative and never goes up. -/
def staysInside (name : String) : Bool :=
  !Text.startsWith ['/'] name.toList && (components name).all (· != "..")

def joined (directory name : String) : String :=
  if directory = "" ∨ Text.endsWith '/' directory.toList then directory ++ name
  else directory ++ "/" ++ name

def filePath (directory name : String) : Except RepoError String :=
  if name = "" then .error (.invalidPath "file name cannot be empty")
  else if staysInside name then .ok (joined directory name)
  else .error (.invalidPath s!"file name must stay inside the index directory: {name}")

/-- The length of the checksum record that every index file ends with. -/
def footerLength : Nat := Footer.size

namespace Tree

/-- Open a file of an index directory for reading. A directory can be opened too, but not read. -/
def openInput (tree : Tree) (directory name : String) : Except RepoError IndexInput := do
  let path ← filePath directory name
  match tree.openEntry path with
  | .ok (.file content) => return ⟨name, content.size, Reader.ofBytes content⟩
  | .ok .directory =>
      return ⟨name, directorySize, (Reader.ofBytes .empty).failingAfter 0 .isDirectory⟩
  | .error .noSuchEntry => throw (.notFound path)
  | .error cause => throw (.io cause)

/-- An index directory as a source of copies. -/
def source (tree : Tree) (directory : String) : IndexSource :=
  ⟨tree.openInput directory, footerLength⟩

/-- Create a new file of an index directory, and the directories that lead to it. The result is the
names that lead to the file. -/
def createOutput (tree : Tree) (directory name : String) :
    Except RepoError (List String) × Tree :=
  match filePath directory name with
  | .error error => (.error error, tree)
  | .ok path =>
      match tree.createDirectories (parentPath path) with
      | (.error cause, tree) => (.error (.io cause), tree)
      | (.ok (), tree) =>
          match tree.createFile path with
          | .error cause => (.error (.io cause), tree)
          | .ok (names, tree) => (.ok names, tree)

/-- A tree with files added, which are named by their paths. A file that cannot be created is left
out. -/
def withFiles (tree : Tree) (files : List (String × ByteArray)) : Tree :=
  files.foldl (fun tree (path, content) =>
    let (_, tree) := tree.createDirectories (parentPath path)
    match tree.createFile path with
    | .ok (names, tree) => tree.put names (.file content)
    | .error _ => tree) tree

end Tree

end Depot.Local
