import Depot.Path.Key

/-!
Hierarchical paths. A path has a scheme, perhaps a host, and a text that starts with `/`; it is
written `s3://host/a/b/`, or `s3:///a/b/` without a host. A path that ends in `/` stands for a
directory.
-/

namespace Depot

def Scheme.ofName (raw : String) : Except RepoError Scheme :=
  let name := Text.lower raw
  if name = Scheme.s3.name then .ok .s3
  else if name = Scheme.swarm.name then .ok .swarm
  else .error (.invalidPath s!"unknown scheme '{name}'")

/-- A path in one of the namespaces. An empty host counts as no host. -/
structure LogicalPath where
  scheme : Scheme
  host : Option String
  path : String
  host_ne_empty : host ≠ some ""
  path_starts : path.toList.head? = some '/'
  deriving DecidableEq

namespace LogicalPath

/-- The text with a delimiter in front, if it has none yet. -/
def rooted (text : String) : String :=
  if text.toList.head? = some '/' then text else "/" ++ text

theorem rooted_starts (text : String) : (rooted text).toList.head? = some '/' := by
  unfold rooted
  split
  · assumption
  · simp [String.toList_append]

/-- Build a path. The text gets a leading delimiter if it lacks one, and an empty host is
dropped. -/
def make (scheme : Scheme) (host : Option String) (text : String) : LogicalPath where
  scheme := scheme
  host := host.filter (· != "")
  path := rooted text
  host_ne_empty := by cases host <;> simp [Option.filter]
  path_starts := rooted_starts text

/-- The root of a scheme, without a host. -/
def root (scheme : Scheme) : LogicalPath := make scheme none "/"

/-- Read a written path. `s3:/a/b` and `s3:a/b` are read as paths without a host. -/
def parse (raw : String) : Except RepoError LogicalPath :=
  match Scheme.split? raw with
  | none => .error (.invalidPath s!"missing scheme in '{raw}'")
  | some (scheme, rest) =>
      match Text.dropLead? ['/', '/'] rest.toList with
      | none => .ok (make scheme none rest)
      | some authorityAndPath =>
          match Text.cutAt? delimiter authorityAndPath with
          | some (host, path) =>
              .ok (make scheme (some (String.ofList host)) (String.ofList (delimiter :: path)))
          | none => .ok (make scheme (some (String.ofList authorityAndPath)) "/")

/-- The written form of a path. -/
def uri (path : LogicalPath) : String :=
  path.scheme.name ++ "://" ++ path.host.getD "" ++ path.path

def isDirectory (path : LogicalPath) : Bool := Text.endsWith delimiter path.path.toList

def isRoot (path : LogicalPath) : Bool := path.host.isNone && path.path == "/"

def asDirectory (path : LogicalPath) : LogicalPath :=
  if path.isDirectory then path
  else { path with
    path := path.path ++ "/"
    path_starts := by
      have starts := path.path_starts
      cases chars : path.path.toList with
      | nil => simp [chars] at starts
      | cons first others => simp_all [String.toList_append] }

end LogicalPath

/-- What the restore logic of a host wants to know about a path. -/
inductive PathType where
  | file
  | directory
  deriving DecidableEq, Repr

end Depot
