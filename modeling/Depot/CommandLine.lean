import Depot.Backend
import Depot.Repository
import Depot.Toml.Properties

/-!
The command line. A run reads a configuration file, connects to the store that it asks for, carries
out one command, and reports what is to be printed and with which exit code it ends. Output is
printed only by a command that succeeds.
-/

namespace Depot.CommandLine

def usage : String := "usage: blobrepo <config.toml> <command> [args]

commands:
  mkdir <location>
  ls <location>
  stat <location>
  rm <location>
  backup <local-dir> <file> <location>
  restore <location> <file> <local-dir>"

/-! ## Failures -/

inductive Failure where
  /-- There are too few arguments. -/
  | noCommand
  /-- There is no such command, or it takes other arguments. -/
  | unknownCommand (name : String)
  /-- The configuration file asks for a store that cannot be connected to. -/
  | initialization (configuration : String) (cause : RepoError)
  | repository (error : RepoError)

namespace Failure

def message : Failure → String
  | .noCommand => usage
  | .unknownCommand name => s!"unknown command or wrong arguments: {name}\n\n" ++ usage
  | .initialization configuration _ => s!"Failed to initialize repository from {configuration}"
  | .repository error => error.message

/-- The texts of the errors that a failure goes back to. -/
def causes : Failure → List String
  | .initialization _ cause => cause.message :: cause.sources
  | .repository error => error.sources
  | _ => []

end Failure

/-- A text behind a mark; its further lines begin with as many spaces as the mark has characters. -/
def indented (mark : List Char) (text : String) : String :=
  let indentation := '\n' :: List.replicate mark.length ' '
  String.ofList (mark ++ Text.replaceAll ['\n'] indentation text.toList)

/-- Causes as they are listed: a single one without a number. -/
def causeLines : List String → List String
  | [cause] => [indented (List.replicate 4 ' ') cause]
  | causes => causes.zipIdx.map fun (cause, number) =>
      let digits := Nat.toDigits 10 number
      indented (List.replicate (5 - digits.length) ' ' ++ digits ++ [':', ' ']) cause

def Failure.text (failure : Failure) : String :=
  let causes :=
    if failure.causes.isEmpty then ""
    else "\n\nCaused by:\n" ++ Text.joinStrings "\n" (causeLines failure.causes)
  "Error: " ++ failure.message ++ causes ++ "\n"

example : (Failure.initialization "depot.toml" (.config "no bucket")).text =
    "Error: Failed to initialize repository from depot.toml\n\nCaused by:\n" ++
      "    Invalid configuration: no bucket\n" := by decide +kernel

example : (Failure.repository (.transfer "k" (.io .earlyEnd))).text =
    "Error: Transfer of 'k' failed: I/O error: early eof\n\nCaused by:\n" ++
      "    0: I/O error: early eof\n    1: early eof\n" := by decide +kernel

/-! ## Commands -/

inductive Command where
  | makeDirectory (location : String)
  | list (location : String)
  | describe (location : String)
  | remove (location : String)
  | backup (directory file location : String)
  | restore (location file directory : String)
  deriving DecidableEq, Repr

namespace Command

def ofArguments? (name : String) (arguments : List String) : Option Command :=
  match name, arguments with
  | "mkdir", [location] => some (.makeDirectory location)
  | "ls", [location] => some (.list location)
  | "stat", [location] => some (.describe location)
  | "rm", [location] => some (.remove location)
  | "backup", [directory, file, location] => some (.backup directory file location)
  | "restore", [location, file, directory] => some (.restore location file directory)
  | _, _ => none

variable {Handle : Type}

/-- What a command that leaves the local files alone prints. -/
def print (repository : Repository Handle) (tree : Local.Tree) : Command → StoreTask String
  | .makeDirectory location => do
      let path ← repository.layout.normalize location
      repository.createDirectory path
      return path.uri ++ "\n"
  | .list location => do
      let path ← repository.layout.normalize location
      return String.join ((← repository.listAll path).map (· ++ "\n"))
  | .describe location => do
      let path ← repository.layout.normalize location
      let kind := match ← repository.pathType path with
        | .file => "file"
        | .directory => "directory"
      let found := if ← repository.exists? path then "true" else "false"
      return path.uri ++ "\t" ++ kind ++ "\texists=" ++ found ++ "\n"
  | .remove location => do
      let path ← repository.layout.normalize location
      repository.deleteDirectory path
      return ""
  | .backup directory file location => do
      let target ← repository.createUri location
      repository.copyFileFrom tree directory file target
      return ""
  | .restore _ _ _ => return ""

/-- Carry out a command. The result is what it prints, and the local files that it leaves. -/
def perform (repository : Repository Handle) (tree : Local.Tree) (command : Command) :
    StoreDialogue (Except RepoError String × Local.Tree) :=
  match command with
  | .restore location file directory =>
      match repository.layout.normalize location with
      | .error error => return (.error error, tree)
      | .ok source => do
          let (restored, tree) ← repository.copyFileTo source file tree directory
          return (restored.map fun _ => "", tree)
  | command => do return (← (command.print repository tree).run, tree)

end Command

/-! ## Runs -/

/-- What a run prints, its exit code, and the local files that it leaves. -/
structure Report where
  exit : Nat
  output : String
  errors : String
  tree : Local.Tree

def Report.failed (failure : Failure) (tree : Local.Tree) : Report := ⟨1, "", failure.text, tree⟩

def readText (tree : Local.Tree) (path : String) : Except IoCause String := do
  match ← tree.openEntry path with
  | .directory => throw .isDirectory
  | .file content =>
      match String.fromUTF8? content with
      | some text => return text
      | none => throw (.other "stream did not contain valid UTF-8")

def readProperties (tree : Local.Tree) (path : String) : Except RepoError Properties :=
  match readText tree path with
  | .error cause => .error (.config (s!"Failed to read {path}: " ++ cause.message))
  | .ok text =>
      match Toml.properties? text with
      | some properties => .ok properties
      | none => .error (.config s!"Failed to parse {path}: TOML parse error")

/-- The namespace that properties ask for; without one it is hierarchical. -/
def readNamespace (properties : Properties) : Except RepoError Namespace :=
  match properties.find? Setting.layout with
  | some name => Namespace.ofName name
  | none => .ok .hierarchical

def openRepository (tree : Local.Tree) (environment : String → Option String) (pageLimit : Nat)
    (path : String) : Except Failure (Repository Backend) := do
  let properties ← (readProperties tree path).mapError .repository
  let layout ← (readNamespace properties).mapError .repository
  match (Repository.new layout pageLimit).init Backend.connect properties environment with
  | (.ok (), repository) => return repository
  | (.error error, _) => throw (.initialization path error)

/-- Carry out a command on the store that a repository is connected to. A repository without a
store asks nothing of it. -/
def carryOut (repository : Repository Backend) (tree : Local.Tree) (command : Command) :
    Dialogue S3.Exchange S3.Exchange.Reply Report :=
  let store := repository.client.getD (.memory .empty)
  ((command.perform repository tree).refine Backend.respond store).andThen
    fun ((result, tree), _) =>
      match result with
      | .ok output => .done ⟨0, output, "", tree⟩
      | .error error => .done (.failed (.repository error) tree)

def run (arguments : List String) (tree : Local.Tree) (environment : String → Option String)
    (pageLimit : Nat) : Dialogue S3.Exchange S3.Exchange.Reply Report :=
  match arguments with
  | configuration :: name :: arguments =>
      match openRepository tree environment pageLimit configuration with
      | .error failure => .done (.failed failure tree)
      | .ok repository =>
          match Command.ofArguments? name arguments with
          | none => .done (.failed (.unknownCommand name) tree)
          | some command => carryOut repository tree command
  | _ => .done (.failed .noCommand tree)

def filesRead : List String → List String
  | [configuration, "backup", directory, file, _] => [configuration, Local.joined directory file]
  | configuration :: _ => [configuration]
  | [] => []

end Depot.CommandLine
