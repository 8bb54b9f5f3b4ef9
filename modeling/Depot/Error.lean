import Depot.Path.Scheme

/-!
The errors of every layer. An error is a cause with the data that belongs to it; its wording is
`RepoError.message`. A failure in the middle of a copy is wrapped with the key it belongs to, and
`RepoError.rootCause` looks through such wrappers.
-/

namespace Depot

inductive IoCause where
  /-- The bytes ended before as many as were asked for had been read. -/
  | earlyEnd
  | noSuchEntry
  | alreadyExists
  | notDirectory
  | isDirectory
  | nameTooLong
  /-- A file name holds the character with code zero. -/
  | nulInName
  | other (text : String)
  deriving DecidableEq, Repr

def IoCause.message : IoCause → String
  | .earlyEnd => "early eof"
  | .noSuchEntry => "No such file or directory (os error 2)"
  | .alreadyExists => "File exists (os error 17)"
  | .notDirectory => "Not a directory (os error 20)"
  | .isDirectory => "Is a directory (os error 21)"
  | .nameTooLong => "File name too long (os error 36)"
  | .nulInName => "file name contained an unexpected NUL byte"
  | .other text => text

/-- Everything that an operation of the repository can fail with. -/
inductive RepoError where
  /-- A location, path or name that is malformed or empty. -/
  | invalidPath (reason : String)
  /-- A path whose scheme belongs to another namespace. -/
  | schemeMismatch (expected : Scheme) (found : String)
  | notFound (what : String)
  /-- A file was asked for where a directory marker is stored. -/
  | isDirectory (what : String)
  /-- A local file is too short for its checksum record, or does not match it. -/
  | corruptSource (name reason : String)
  /-- A copy to or from `key` failed on the way. -/
  | transfer (key : String) (source : RepoError)
  /-- The object store could not be reached or refused a request. -/
  | transport (reason : String)
  | config (reason : String)
  | io (cause : IoCause)
  /-- A listing had not come to its end after this many pages. -/
  | endlessListing (pages : Nat)
  deriving DecidableEq, Repr

namespace RepoError

def message : RepoError → String
  | .invalidPath reason => s!"Invalid path: {reason}"
  | .schemeMismatch expected found =>
      "URI must begin with '" ++ expected.name ++ s!":' scheme, got '{found}'"
  | .notFound what => s!"Not found: {what}"
  | .isDirectory what => s!"Path is a directory: {what}"
  | .corruptSource name reason => s!"Corrupt source '{name}': {reason}"
  | .transfer key source => s!"Transfer of '{key}' failed: " ++ source.message
  | .transport reason => s!"Object store error: {reason}"
  | .config reason => s!"Invalid configuration: {reason}"
  | .io cause => "I/O error: " ++ cause.message
  | .endlessListing pages => s!"Object store error: no end of the listing after {pages} pages"

/-- Attach the key of a copy to the error it failed with. A corrupt source and an error that
already carries a key are reported as they are. -/
def inTransfer (key : String) : RepoError → RepoError
  | .corruptSource name reason => .corruptSource name reason
  | .transfer inner source => .transfer inner source
  | error => .transfer key error

def isNotFound : RepoError → Bool
  | .notFound _ => true
  | _ => false

/-- The error under all keys that were attached to it. -/
def rootCause : RepoError → RepoError
  | .transfer _ source => source.rootCause
  | error => error

/-- The texts of the errors that an error goes back to, each before its own cause. -/
def sources : RepoError → List String
  | .transfer _ source => source.message :: source.sources
  | .io cause => [cause.message]
  | _ => []

@[simp] theorem rootCause_inTransfer (key : String) (error : RepoError) :
    (error.inTransfer key).rootCause = error.rootCause := by
  cases error <;> rfl

end RepoError

def succeeded {Result : Type} : Except RepoError Result → Bool
  | .ok _ => true
  | .error _ => false

/-- Steps that may fail succeed if each of them does. -/
theorem bind_eq_ok_iff {Error Value Result : Type} {first : Except Error Value}
    {second : Value → Except Error Result} {result : Result} :
    (first >>= second) = .ok result ↔ ∃ value, first = .ok value ∧ second value = .ok result := by
  cases first with
  | error error => simp [bind, Except.bind]
  | ok value => simp [bind, Except.bind]

/-- Steps that may fail do so where the first of them fails, or a later one. -/
theorem bind_eq_error_iff {Error Value Result : Type} {first : Except Error Value}
    {second : Value → Except Error Result} {error : Error} :
    (first >>= second) = .error error ↔
      first = .error error ∨ ∃ value, first = .ok value ∧ second value = .error error := by
  cases first with
  | error error => simp [bind, Except.bind]
  | ok value => simp [bind, Except.bind]

/-- What comes out of steps that may fail comes out of one of them. -/
theorem exists_of_mem_mapM {Error Value Result : Type} {step : Value → Except Error Result}
    {values : List Value} {results : List Result} {result : Result}
    (done : values.mapM step = .ok results) (member : result ∈ results) :
    ∃ value ∈ values, step value = .ok result := by
  induction values generalizing results with
  | nil =>
      cases done
      cases member
  | cons first values induction =>
      rw [List.mapM_cons] at done
      rcases bind_eq_ok_iff.mp done with ⟨found, here, done⟩
      rcases bind_eq_ok_iff.mp done with ⟨others, later, done⟩
      cases done
      rcases List.mem_cons.mp member with rfl | member
      · exact ⟨first, List.mem_cons_self, here⟩
      · rcases induction later member with ⟨value, among, isResult⟩
        exact ⟨value, List.mem_cons_of_mem first among, isResult⟩

/-- Steps that all succeed give all their results. -/
theorem mapM_eq_ok {Error Value Result : Type} {step : Value → Except Error Result}
    {values : List Value} {result : Value → Result}
    (succeed : ∀ value ∈ values, step value = .ok (result value)) :
    values.mapM step = .ok (values.map result) := by
  induction values with
  | nil => rfl
  | cons first values induction =>
      rcases List.forall_mem_cons.mp succeed with ⟨here, later⟩
      rw [List.mapM_cons, here, induction later]
      rfl

/-- Steps fail with the error of the first that fails. -/
theorem exists_mapM_eq_error {Error Value Result : Type} {step : Value → Except Error Result}
    {values : List Value} {value : Value} {error : Error} (among : value ∈ values)
    (fails : step value = .error error) :
    ∃ front first rest cause, values = front ++ first :: rest ∧
      (∀ early ∈ front, ∃ result, step early = .ok result) ∧ step first = .error cause ∧
      values.mapM step = .error cause := by
  induction values with
  | nil => cases among
  | cons head values induction =>
      rw [List.mapM_cons]
      cases here : step head with
      | error cause => exact ⟨[], head, values, cause, rfl, List.forall_mem_nil _, here, rfl⟩
      | ok result =>
          have later : value ∈ values := by
            rcases List.mem_cons.mp among with rfl | later
            · rw [here] at fails
              cases fails
            · exact later
          rcases induction later with ⟨front, first, rest, cause, rfl, early, isFirst, failed⟩
          refine ⟨head :: front, first, rest, cause, rfl, ?_, isFirst, ?_⟩
          · exact List.forall_mem_cons.mpr ⟨⟨result, here⟩, early⟩
          · rw [failed]
            rfl

end Depot
