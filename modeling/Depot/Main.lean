import Depot.CommandLine

/-!
The program. It hands the files that a run reads, and the environment, to `CommandLine.run`, and
prints what that reports. No HTTP client is linked in, so commands for a remote store are refused.
-/

namespace Depot.CommandLine

/-- More pages than any listing has. -/
def pageLimit : Nat := 1000000000

/-- Those of the files that can be read, and what they hold. -/
def load (paths : List String) : IO (List (String × ByteArray)) :=
  paths.filterMapM fun (path : String) => do
    try
      return some (path, ← IO.FS.readBinFile path)
    catch _ => return none

/-- The values of those environment variables that are set. -/
def environment (names : List String) : IO (List (String × String)) :=
  names.filterMapM fun name => do return (← IO.getEnv name).map fun value => (name, value)

def save (added : List (List String × Local.Node)) : IO Unit :=
  added.forM fun (names, node) => do
    let path := "/" ++ Text.joinStrings "/" names
    match node with
    | .directory => IO.FS.createDirAll path
    | .file content => IO.FS.writeBinFile path content

end Depot.CommandLine

open Depot in
def main (arguments : List String) : IO UInt32 := do
  let files ← CommandLine.load (CommandLine.filesRead arguments)
  let environment ← CommandLine.environment Setting.environmentNames
  let working := Local.components (toString (← IO.currentDir))
  let tree := (Local.Tree.bare working).withFiles files
  let run := CommandLine.run arguments tree (environment.lookup ·) CommandLine.pageLimit
  let (report, _) := run.run (fun (_ : Unit) asked => (asked.refused, ())) ()
  CommandLine.save (report.tree.entries.toList.filter fun (names, _) => (tree.node? names).isNone)
  IO.print report.output
  IO.eprint report.errors
  return UInt32.ofNat report.exit
