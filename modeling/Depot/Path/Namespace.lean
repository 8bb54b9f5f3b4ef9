import Depot.Path.Logical

/-!
The two ways to lay out paths in an object store. The hierarchical namespace keeps an empty marker
object for every directory; in the flat namespace directories are only the leading parts of keys.
Each namespace turns locations into directory paths, joins components onto a path, and maps paths
onto keys.
-/

namespace Depot

inductive Namespace where
  | hierarchical
  | flat
  deriving DecidableEq, Repr

namespace Namespace

def scheme : Namespace → Scheme
  | .hierarchical => .s3
  | .flat => .swarm

/-- The namespace with a given name: that of its scheme, or its own. -/
def ofName (raw : String) : Except RepoError Namespace :=
  let name := Text.lower raw
  if name = "s3" ∨ name = "hierarchical" then .ok .hierarchical
  else if name = "swarm" ∨ name = "flat" then .ok .flat
  else .error (.config s!"unknown namespace '{name}'")

def root (layout : Namespace) : LogicalPath := LogicalPath.root layout.scheme

/-- The text with a delimiter at its end, if it has none yet. -/
def closed (text : String) : String :=
  if Text.endsWith delimiter text.toList then text else text ++ "/"

/-- Whether a location carries the namespace's own scheme. -/
def owns (layout : Namespace) (location : String) : Bool :=
  match Scheme.split? location with
  | some (scheme, _) => scheme == layout.scheme
  | none => false

/-- Turn a location into a directory path. A location with the namespace's own scheme keeps its
host; any other text is taken as a path below the root. -/
def normalize (layout : Namespace) (location : String) : Except RepoError LogicalPath :=
  if location = "" then
    .error (.invalidPath "cannot create URI with an empty location")
  else if layout.owns location then LogicalPath.parse (closed location)
  else .ok (LogicalPath.make layout.scheme none (closed (LogicalPath.rooted location)))

/-- Whether a segment counts: it is neither empty nor a single dot. -/
def isProper (segment : List Char) : Bool := segment != [] && segment != ['.']

/-- The text with its empty and `.` segments dropped. A delimiter stays at the end if the text
ended in one or in `/.`, and a segment is left. -/
def collapse (text : String) : String :=
  let chars := text.toList
  let trailing := Text.endsWith delimiter chars ||
    (chars.getLast? == some '.' && chars.dropLast.getLast? == some delimiter)
  let segments := (Text.pieces delimiter chars).filter isProper
  String.ofList (delimiter :: Text.join [delimiter] segments ++
    (if trailing && !segments.isEmpty then [delimiter] else []))

/-- The list with a delimiter at the end of its last text, if that has none yet. -/
def closeLast : List String → List String
  | [] => []
  | [last] => [closed last]
  | first :: others => first :: closeLast others

/-- Join components onto a base, as a directory or not. In the flat namespace a single component
that holds a delimiter is a full key and is taken from the root. -/
def resolveAs (asDirectory : Bool) (layout : Namespace) (base : LogicalPath)
    (components : List String) : Except RepoError LogicalPath :=
  if base.scheme ≠ layout.scheme then
    .error (.schemeMismatch layout.scheme base.uri)
  else if asDirectory && components.isEmpty then .ok base.asDirectory
  else
    let parts := if asDirectory then closeLast components else components
    match layout, components with
    | .flat, [single] =>
        if delimiter ∈ single.toList then
          .ok (LogicalPath.make layout.scheme none (collapse ("/" ++ Text.joinStrings "/" parts)))
        else
          .ok (LogicalPath.make layout.scheme base.host
            (collapse (base.path ++ "/" ++ Text.joinStrings "/" parts)))
    | _, _ =>
        .ok (LogicalPath.make layout.scheme base.host
          (collapse (base.path ++ "/" ++ Text.joinStrings "/" parts)))

/-- Join components onto a base, with repeated delimiters and `.` segments collapsed. -/
def resolve (layout : Namespace) (base : LogicalPath) (components : List String) :
    Except RepoError LogicalPath :=
  layout.resolveAs false base components

/-- Join components onto a base; the result stands for a directory. -/
def resolveDirectory (layout : Namespace) (base : LogicalPath) (components : List String) :
    Except RepoError LogicalPath :=
  layout.resolveAs true base components

/-- The key of a path: the host followed by the path, or the path without its leading delimiter
if there is no host. -/
def objectKey (path : LogicalPath) : ObjectKey :=
  match path.host with
  | some host => ⟨host ++ path.path⟩
  | none => ⟨String.ofList path.path.toList.tail⟩

/-- The key under which a directory is stored or looked up. -/
def directoryKey (layout : Namespace) (path : LogicalPath) : ObjectKey :=
  match layout with
  | .hierarchical => (objectKey path).asDirectory
  | .flat => (objectKey path).trimDirectory

/-- The key of a file; a path that is empty or stands for a directory has none. -/
def fileKey (path : LogicalPath) : Except RepoError ObjectKey := (objectKey path).asFile

end Namespace

end Depot
