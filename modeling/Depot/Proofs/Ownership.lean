import Depot.Service
import Depot.Proofs.Locations
import Depot.Proofs.Transcripts

/-!
Who owns the client that a service works with. It is the one that the last successful init gave, as
long as there has been no close since: an init that fails changes nothing at all, one that succeeds
replaces properties and client together, and every call of a request goes to that client. Where there
is none, requests make no calls and leave the local files alone, and nearly all of them fail.
-/

namespace Depot

open Dialogue

/-! ## What the past says -/

/-- Whether something has happened, and what has come since then is quiet. -/
def Since {Moment : Type} (happens quiet : Moment → Prop) (past : List Moment) : Prop :=
  ∃ early moment late, past = early ++ moment :: late ∧ happens moment ∧ ∀ later ∈ late, quiet later

namespace Since

variable {Moment : Type} {happens quiet : Moment → Prop} {past : List Moment} {moment : Moment}

theorem not_nil : ¬Since happens quiet [] := by
  intro since
  rcases since with ⟨early, moment, late, whole, -⟩
  cases early <;> cases whole

theorem concat_iff : Since happens quiet (past ++ [moment]) ↔
    happens moment ∨ quiet moment ∧ Since happens quiet past := by
  constructor
  · intro since
    rcases since with ⟨early, found, late, whole, happened, stillQuiet⟩
    rcases List.eq_nil_or_concat late with rfl | ⟨front, last, rfl⟩
    · cases (List.append_inj' whole rfl).2
      exact .inl happened
    · rw [List.concat_eq_append, ← List.cons_append, ← List.append_assoc] at whole
      rcases List.append_inj' whole rfl with ⟨rfl, same⟩
      cases same
      rw [List.concat_eq_append, List.forall_mem_append] at stillQuiet
      exact .inr ⟨stillQuiet.2 _ (List.mem_singleton_self _), early, found, front, rfl, happened,
        stillQuiet.1⟩
  · intro given
    rcases given with happened | ⟨isQuiet, early, found, late, rfl, happened, stillQuiet⟩
    · exact ⟨past, moment, [], rfl, happened, by simp⟩
    · refine ⟨early, found, late ++ [moment], by simp, happened, ?_⟩
      rw [List.forall_mem_append]
      exact ⟨stillQuiet, by simpa using isQuiet⟩

end Since

variable {Handle : Type}

namespace Event

/-- The properties and the client that an event gives to a repository. -/
def given? : Event Handle → Option (Properties × Handle)
  | .init connect properties environment =>
      match Settings.resolve properties environment >>= connect with
      | .ok client => some (properties, client)
      | .error _ => none
  | .initWith connect properties settings =>
      match connect settings with
      | .ok client => some (properties, client)
      | .error _ => none
  | _ => none

/-- Whether a client is the one that the last successful init gave, with no close after it. -/
def Owns (events : List (Event Handle)) (client : Handle) : Prop :=
  Since (fun event => ∃ properties, event.given? = some (properties, client))
    (fun event => event.given? = none ∧ event ≠ .close) events

/-- Whether properties are those of the last successful init, or empty if there has been none. -/
def Configures (events : List (Event Handle)) (properties : Properties) : Prop :=
  Since (fun event => ∃ client, event.given? = some (properties, client))
      (fun event => event.given? = none) events ∨
    properties = .empty ∧ ∀ event ∈ events, event.given? = none

variable {events : List (Event Handle)} {event : Event Handle} {client : Handle}
  {properties : Properties}

theorem owns_concat_iff : Owns (events ++ [event]) client ↔
    (∃ properties, event.given? = some (properties, client)) ∨
      (event.given? = none ∧ event ≠ .close) ∧ Owns events client :=
  Since.concat_iff

theorem configures_concat_of_given (gives : event.given? = some (properties, client)) :
    Configures (events ++ [event]) properties :=
  .inl (Since.concat_iff.mpr (.inl ⟨client, gives⟩))

theorem configures_concat_of_none (nothing : event.given? = none)
    (configures : Configures events properties) : Configures (events ++ [event]) properties := by
  rcases configures with since | ⟨isEmpty, quiet⟩
  · exact .inl (Since.concat_iff.mpr (.inr ⟨nothing, since⟩))
  · refine .inr ⟨isEmpty, ?_⟩
    rw [List.forall_mem_append]
    exact ⟨quiet, by simpa using nothing⟩

end Event

/-! ## Requests without a client -/

/-- Whether an error is one of a name or a path. -/
def RepoError.IsOfPath (error : RepoError) : Prop :=
  (∃ reason, error = .invalidPath reason) ∨ ∃ expected found, error = .schemeMismatch expected found

namespace Repository

/-- What is wrong where there is no client. -/
def notInitialized : RepoError := .config "repository not initialized"

/-- The names of a copy are there, and one of them has a key below a path. -/
def checkCopy (repository : Repository Handle) (sourceName targetName : String)
    (path : LogicalPath) (name : String) : Except RepoError Unit := do
  requireNames sourceName targetName
  let _ ← repository.keyBelow path name

end Repository

namespace Request

/-- The checks of its own names and paths that a request makes before it needs a client. -/
def check (repository : Repository Handle) : Request → Except RepoError Unit
  | .createUri location => do
      let _ ← repository.layout.normalize location
  | .delete path files _ => do
      let _ ← files.mapM (repository.keyBelow path)
  | .openInput path file => do
      Repository.requireName file "need a valid file name to read from the store"
      let _ ← repository.keyBelow path file
  | .createOutput path => do
      let _ ← Namespace.fileKey path
  | .copyIndexFileFrom _ sourceName target targetName =>
      repository.checkCopy sourceName targetName target targetName
  | .copyFileFrom _ file target => repository.checkCopy file file target file
  | .copyIndexFileTo source sourceName _ targetName =>
      repository.checkCopy sourceName targetName source sourceName
  | .copyFileTo source file _ =>
      match repository.layout with
      | .hierarchical => repository.checkCopy file file source file
      | .flat =>
          repository.checkCopy file (Repository.afterFirstDelimiter file) repository.layout.root file
  | _ => .ok ()

/-- Whether a request fails for want of a client, or before that by a check of its own. -/
def IsRefused (repository : Repository Handle) (request : Request)
    (outcome : Except RepoError request.Reply) : Prop :=
  ∃ error, outcome = .error error ∧
    (request.check repository = .error error ∧ error.IsOfPath ∨
      request.check repository = .ok () ∧ error = Repository.notInitialized)

/-- What comes of a request without a client. Those that are about no store have their answers; a
location that is not empty is normalized, and no files are deleted without a failure. All other ones
are refused. -/
def Idles (repository : Repository Handle) :
    (request : Request) → Except RepoError request.Reply → Prop
  | .property name, outcome => outcome = .ok (repository.property? name)
  | .normalize location, outcome => outcome = repository.layout.normalize location
  | .resolve base components, outcome => outcome = repository.layout.resolve base components
  | .resolveDirectory base components, outcome =>
      outcome = repository.layout.resolveDirectory base components
  | .createUri location, outcome =>
      if location = "" then IsRefused repository (.createUri location) outcome
      else ∃ path, repository.layout.normalize location = .ok path ∧ outcome = .ok path
  | .delete path files ignoreMissing, outcome =>
      if files = [] then outcome = .ok ()
      else IsRefused repository (.delete path files ignoreMissing) outcome
  | request, outcome => IsRefused repository request outcome

end Request

/-! ## The checks of requests -/

namespace Repository

variable {repository : Repository Handle} {path : LogicalPath} {error : RepoError}

theorem isOfPath_requireName {name message : String}
    (fails : requireName name message = .error error) : error.IsOfPath := by
  rw [requireName] at fails
  split at fails
  · cases fails
    exact .inl ⟨_, rfl⟩
  · cases fails

theorem isOfPath_fileKey (fails : Namespace.fileKey path = .error error) : error.IsOfPath := by
  rw [Namespace.fileKey, ObjectKey.asFile] at fails
  split at fails
  · cases fails
    exact .inl ⟨_, rfl⟩
  · split at fails
    · cases fails
      exact .inl ⟨_, rfl⟩
    · cases fails

theorem isOfPath_resolve {layout : Namespace} {components : List String}
    (fails : layout.resolve path components = .error error) : error.IsOfPath := by
  unfold Namespace.resolve Namespace.resolveAs at fails
  split at fails
  · cases fails
    exact .inr ⟨_, _, rfl⟩
  · split at fails
    · cases fails
    · dsimp only at fails
      split at fails
      · split at fails <;> cases fails
      · cases fails

theorem isOfPath_keyBelow {name : String} (fails : repository.keyBelow path name = .error error) :
    error.IsOfPath := by
  rcases bind_eq_error_iff.mp fails with unresolved | ⟨file, -, noFile⟩
  · exact isOfPath_resolve unresolved
  · exact isOfPath_fileKey noFile

theorem isOfPath_requireNames {source target : String}
    (fails : requireNames source target = .error error) : error.IsOfPath := by
  rcases bind_eq_error_iff.mp fails with nameless | ⟨_, -, nameless⟩
  · exact isOfPath_requireName nameless
  · exact isOfPath_requireName nameless

theorem isOfPath_checkCopy {sourceName targetName name : String}
    (fails : repository.checkCopy sourceName targetName path name = .error error) :
    error.IsOfPath := by
  rcases bind_eq_error_iff.mp fails with nameless | ⟨_, -, noKey⟩
  · exact isOfPath_requireNames nameless
  · rcases bind_eq_error_iff.mp noKey with noKey | ⟨_, -, impossible⟩
    · exact isOfPath_keyBelow noKey
    · cases impossible

theorem isOfPath_mapM_keyBelow {names : List String}
    (fails : names.mapM (repository.keyBelow path) = .error error) : error.IsOfPath := by
  induction names with
  | nil => cases fails
  | cons name names induction =>
      rw [List.mapM_cons] at fails
      rcases bind_eq_error_iff.mp fails with noKey | ⟨_, -, fails⟩
      · exact isOfPath_keyBelow noKey
      · rcases bind_eq_error_iff.mp fails with noKeys | ⟨_, -, impossible⟩
        · exact induction noKeys
        · cases impossible

end Repository

/-- A request that is refused by a check of its own is refused for a name or path. -/
theorem Request.isOfPath_check {repository : Repository Handle} {request : Request}
    {error : RepoError} (fails : request.check repository = .error error) : error.IsOfPath := by
  cases request with
  | createUri location =>
      rcases bind_eq_error_iff.mp fails with noPath | ⟨_, -, impossible⟩
      · by_cases nothing : location = ""
        · rw [Namespace.normalize, if_pos nothing] at noPath
          cases noPath
          exact .inl ⟨_, rfl⟩
        · rcases repository.layout.exists_normalize nothing with ⟨path, normalized⟩
          rw [normalized] at noPath
          cases noPath
      · cases impossible
  | delete path files ignoreMissing =>
      rcases bind_eq_error_iff.mp fails with noKeys | ⟨_, -, impossible⟩
      · exact Repository.isOfPath_mapM_keyBelow noKeys
      · cases impossible
  | openInput path file =>
      rcases bind_eq_error_iff.mp fails with nameless | ⟨_, -, noKey⟩
      · exact Repository.isOfPath_requireName nameless
      · rcases bind_eq_error_iff.mp noKey with noKey | ⟨_, -, impossible⟩
        · exact Repository.isOfPath_keyBelow noKey
        · cases impossible
  | createOutput path =>
      rcases bind_eq_error_iff.mp fails with noKey | ⟨_, -, impossible⟩
      · exact Repository.isOfPath_fileKey noKey
      · cases impossible
  | copyIndexFileFrom => exact Repository.isOfPath_checkCopy fails
  | copyFileFrom => exact Repository.isOfPath_checkCopy fails
  | copyIndexFileTo => exact Repository.isOfPath_checkCopy fails
  | copyFileTo =>
      rw [check] at fails
      split at fails <;> exact Repository.isOfPath_checkCopy fails
  | _ => cases fails

theorem Request.isRefused_of_check {repository : Repository Handle} {request : Request}
    {error : RepoError} (fails : request.check repository = .error error) :
    request.IsRefused repository (.error error) :=
  ⟨error, rfl, .inl ⟨fails, isOfPath_check fails⟩⟩

theorem Request.isRefused_of_client {repository : Repository Handle} {request : Request}
    (passes : request.check repository = .ok ()) :
    request.IsRefused repository (.error Repository.notInitialized) :=
  ⟨_, rfl, .inr ⟨passes, rfl⟩⟩

/-! ## Service without a client -/

abbrev ServiceTranscript (Handle : Type) : Type := Transcript (Sent Handle) Sent.Reply

namespace Service

variable {repository : Repository Handle} {tree after : Local.Tree} {Result : Type}
  {transcript : Transcript Call Call.Reply}

theorem goes_apart_iff {task : StoreTask Result} {outcome : Except RepoError Result} :
    (apart tree task).Goes transcript (outcome, after) ↔
      task.run.Goes transcript outcome ∧ after = tree := by
  unfold apart
  constructor
  · intro goes
    rcases Goes.andThen_iff.mp goes with ⟨result, early, late, rfl, asked, ended⟩
    rcases Goes.done_iff.mp ended with ⟨same, rfl⟩
    cases same
    rw [List.append_nil]
    exact ⟨asked, rfl⟩
  · intro given
    rcases given with ⟨asked, rfl⟩
    exact Goes.andThen_iff.mpr
      ⟨outcome, transcript, [], (List.append_nil _).symm, asked, Goes.done_iff.mpr ⟨rfl, rfl⟩⟩

/-- What has its answer already asks nothing. -/
theorem goes_answered {answer outcome : Except RepoError Result}
    (goes : (.done (answer, tree) : StoreDialogue (Except RepoError Result × Local.Tree)).Goes
      transcript (outcome, after)) : transcript = [] ∧ after = tree ∧ outcome = answer := by
  rcases Goes.done_iff.mp goes with ⟨same, rfl⟩
  cases same
  exact ⟨rfl, rfl, rfl⟩

theorem requireClient_eq (noClient : repository.client = none) :
    repository.requireClient = .error Repository.notInitialized := by
  rw [Repository.requireClient, noClient]
  rfl

/-- A task that needs a client fails at once without one. -/
theorem goes_of_no_client {rest : Unit → StoreTask Result} {outcome : Except RepoError Result}
    (noClient : repository.client = none)
    (goes : ((liftM repository.requireClient : StoreTask Unit) >>= rest).run.Goes transcript
      outcome) : outcome = .error Repository.notInitialized ∧ transcript = [] := by
  rw [requireClient_eq noClient] at goes
  exact Goes.done_iff.mp goes

/-- A request that has nothing to check fails for want of a client. -/
theorem refused_at_once {request : Request} {rest : Unit → StoreTask request.Reply}
    {outcome : Except RepoError request.Reply} (noClient : repository.client = none)
    (passes : request.check repository = .ok ())
    (goes : (apart tree ((liftM repository.requireClient : StoreTask Unit) >>= rest)).Goes transcript
      (outcome, after)) :
    transcript = [] ∧ after = tree ∧ request.IsRefused repository outcome := by
  rcases goes_apart_iff.mp goes with ⟨asked, rfl⟩
  rcases goes_of_no_client noClient asked with ⟨rfl, rfl⟩
  exact ⟨rfl, rfl, Request.isRefused_of_client passes⟩

/-- Without a client, a location is normalized, and that is all. -/
theorem goes_createUri {location : String} {outcome : Except RepoError LogicalPath}
    (noClient : repository.client = none)
    (goes : (repository.createUri location).run.Goes transcript outcome) :
    transcript = [] ∧ outcome = repository.layout.normalize location := by
  rcases Goes.bindExcept_iff.mp goes with ⟨error, fails, rfl, rfl⟩ | ⟨path, normalized, ensured⟩
  · exact ⟨rfl, fails.symm⟩
  rcases Goes.andThen_iff.mp ensured with ⟨made, early, late, rfl, ensuring, ended⟩
  rcases Goes.done_iff.mp ended with ⟨rfl, rfl⟩
  rw [List.append_nil]
  refine ⟨?_, normalized.symm⟩
  rcases Goes.bind_iff.mp ensuring with ⟨error, asked, -⟩ | ⟨found, asked, _, -, asking, -⟩
  · exact (goes_of_no_client noClient asked).2
  · cases (goes_of_no_client noClient asking).1

theorem goes_delete {path : LogicalPath} {files : List String} {ignoreMissing : Bool}
    {outcome : Except RepoError Unit} (noClient : repository.client = none)
    (goes : (repository.delete path files ignoreMissing).run.Goes transcript outcome) :
    transcript = [] ∧ (Request.delete path files ignoreMissing).Idles repository outcome := by
  rcases Goes.bindExcept_iff.mp goes with ⟨error, fails, rfl, rfl⟩ | ⟨keys, resolved, deleting⟩
  · have something : files ≠ [] := by
      intro nothing
      subst nothing
      cases fails
    rw [Request.Idles, if_neg something]
    refine ⟨rfl, Request.isRefused_of_check ?_⟩
    exact bind_eq_error_iff.mpr (.inl fails)
  rw [Request.Idles]
  cases files with
  | nil =>
      cases resolved
      rcases Goes.pure_iff.mp deleting with ⟨rfl, rfl⟩
      exact ⟨rfl, rfl⟩
  | cons file files =>
      have isThere : keys.isEmpty = false := by
        rw [List.mapM_cons] at resolved
        rcases bind_eq_ok_iff.mp resolved with ⟨key, -, resolved⟩
        rcases bind_eq_ok_iff.mp resolved with ⟨others, -, same⟩
        cases same
        rfl
      simp only [isThere, Bool.false_eq_true, if_false] at deleting
      rcases goes_of_no_client noClient deleting with ⟨rfl, rfl⟩
      rw [if_neg (List.cons_ne_nil _ _)]
      refine ⟨rfl, Request.isRefused_of_client ?_⟩
      exact bind_eq_ok_iff.mpr ⟨keys, resolved, rfl⟩

theorem goes_openInput {path : LogicalPath} {file : String}
    {outcome : Except RepoError RemoteInput} (noClient : repository.client = none)
    (goes : (repository.openInput path file).run.Goes transcript outcome) :
    transcript = [] ∧ (Request.openInput path file).IsRefused repository outcome := by
  rcases Goes.bindExcept_iff.mp goes with ⟨error, fails, rfl, rfl⟩ | ⟨_, named, goes⟩
  · exact ⟨rfl, Request.isRefused_of_check (bind_eq_error_iff.mpr (.inl fails))⟩
  rcases Goes.bindExcept_iff.mp goes with ⟨error, fails, rfl, rfl⟩ | ⟨key, atKey, goes⟩
  · refine ⟨rfl, Request.isRefused_of_check ?_⟩
    exact bind_eq_error_iff.mpr (.inr ⟨_, named, bind_eq_error_iff.mpr (.inl fails)⟩)
  · rcases goes_of_no_client noClient goes with ⟨rfl, rfl⟩
    refine ⟨rfl, Request.isRefused_of_client ?_⟩
    exact bind_eq_ok_iff.mpr ⟨_, named, bind_eq_ok_iff.mpr ⟨key, atKey, rfl⟩⟩

theorem goes_createOutput {path : LogicalPath} {outcome : Except RepoError Upload}
    (noClient : repository.client = none)
    (goes : (repository.createOutput path).run.Goes transcript outcome) :
    transcript = [] ∧ (Request.createOutput path).IsRefused repository outcome := by
  rcases Goes.bindExcept_iff.mp goes with ⟨error, fails, rfl, rfl⟩ | ⟨key, atKey, goes⟩
  · exact ⟨rfl, Request.isRefused_of_check (bind_eq_error_iff.mpr (.inl fails))⟩
  · rcases goes_of_no_client noClient goes with ⟨rfl, rfl⟩
    exact ⟨rfl, Request.isRefused_of_client (bind_eq_ok_iff.mpr ⟨key, atKey, rfl⟩)⟩

/-! ### Copies -/

/-- Whether a copy is refused: its names or its key are, or there is no client. -/
def RefusesCopy (repository : Repository Handle) (sourceName targetName : String)
    (path : LogicalPath) (name : String) (error : RepoError) : Prop :=
  repository.checkCopy sourceName targetName path name = .error error ∨
    repository.checkCopy sourceName targetName path name = .ok () ∧
      error = Repository.notInitialized

theorem isRefused_of_copy (request : Request) {sourceName targetName name : String}
    {path : LogicalPath} {error : RepoError}
    (isCheck : request.check repository = repository.checkCopy sourceName targetName path name)
    (refuses : RefusesCopy repository sourceName targetName path name error) :
    request.IsRefused repository (.error error) := by
  rcases refuses with fails | ⟨passes, rfl⟩
  · exact Request.isRefused_of_check (isCheck.trans fails)
  · exact Request.isRefused_of_client (isCheck.trans passes)

/-- What begins with the checks of a copy fails without a client. -/
theorem refusesCopy_of_steps {sourceName targetName name : String} {path : LogicalPath}
    {rest : ObjectKey → Except RepoError Result} (noClient : repository.client = none) :
    ∃ error, (do
        Repository.requireNames sourceName targetName
        let key ← repository.keyBelow path name
        repository.requireClient
        rest key) = .error error ∧
      RefusesCopy repository sourceName targetName path name error := by
  unfold RefusesCopy Repository.checkCopy
  rw [requireClient_eq noClient]
  cases Repository.requireNames sourceName targetName with
  | error error => exact ⟨error, rfl, .inl rfl⟩
  | ok =>
      cases repository.keyBelow path name with
      | error error => exact ⟨error, rfl, .inl rfl⟩
      | ok key => exact ⟨_, rfl, .inr ⟨rfl, rfl⟩⟩

theorem goes_copyFrom {source : IndexSource} {sourceName targetName : String}
    {target : LogicalPath} {outcome : Except RepoError Unit} (noClient : repository.client = none)
    (goes : (repository.copyFrom source sourceName target targetName).run.Goes transcript outcome) :
    transcript = [] ∧ ∃ error, outcome = .error error ∧
      RefusesCopy repository sourceName targetName target targetName error := by
  rcases refusesCopy_of_steps noClient with ⟨error, fails, refuses⟩
  rw [Repository.copyFrom, Repository.prepare, fails] at goes
  rcases Goes.done_iff.mp goes with ⟨rfl, rfl⟩
  exact ⟨rfl, error, rfl, refuses⟩

theorem goes_copyIndexFileTo {source : LogicalPath} {sourceName directory targetName : String}
    {outcome : Except RepoError Unit} (noClient : repository.client = none)
    (goes : (repository.copyIndexFileTo source sourceName tree directory targetName).Goes transcript
      (outcome, after)) :
    transcript = [] ∧ after = tree ∧ ∃ error, outcome = .error error ∧
      RefusesCopy repository sourceName targetName source sourceName error := by
  rcases refusesCopy_of_steps noClient with ⟨error, fails, refuses⟩
  rw [Repository.copyIndexFileTo, fails] at goes
  rcases goes_answered goes with ⟨rfl, rfl, rfl⟩
  exact ⟨rfl, rfl, error, rfl, refuses⟩

/-! ### All requests -/

theorem idles_serve {request : Request} {outcome : Except RepoError request.Reply}
    (noClient : repository.client = none)
    (goes : (serve repository tree request).Goes transcript (outcome, after)) :
    transcript = [] ∧ after = tree ∧ request.Idles repository outcome := by
  cases request with
  | property name => exact goes_answered goes
  | normalize location => exact goes_answered goes
  | resolve base components => exact goes_answered goes
  | resolveDirectory base components => exact goes_answered goes
  | createUri location =>
      rcases goes_apart_iff.mp goes with ⟨asked, rfl⟩
      rcases goes_createUri noClient asked with ⟨rfl, rfl⟩
      refine ⟨rfl, rfl, ?_⟩
      rw [Request.Idles]
      split
      next nothing =>
        have fails : repository.layout.normalize location = .error _ := if_pos nothing
        rw [fails]
        exact Request.isRefused_of_check (bind_eq_error_iff.mpr (.inl fails))
      next something =>
        rcases repository.layout.exists_normalize something with ⟨path, normalized⟩
        exact ⟨path, normalized, normalized⟩
  | pathExists path => exact refused_at_once noClient rfl goes
  | createDirectory path => exact refused_at_once noClient rfl goes
  | deleteDirectory path => exact refused_at_once noClient rfl goes
  | listAll path => exact refused_at_once noClient rfl goes
  | pathType path => exact refused_at_once noClient rfl goes
  | delete path files ignoreMissing =>
      rcases goes_apart_iff.mp goes with ⟨asked, rfl⟩
      rcases goes_delete noClient asked with ⟨rfl, idles⟩
      exact ⟨rfl, rfl, idles⟩
  | openInput path file =>
      rcases goes_apart_iff.mp goes with ⟨asked, rfl⟩
      rcases goes_openInput noClient asked with ⟨rfl, refused⟩
      exact ⟨rfl, rfl, refused⟩
  | createOutput path =>
      rcases goes_apart_iff.mp goes with ⟨asked, rfl⟩
      rcases goes_createOutput noClient asked with ⟨rfl, refused⟩
      exact ⟨rfl, rfl, refused⟩
  | copyIndexFileFrom directory sourceName target targetName =>
      rcases goes_apart_iff.mp goes with ⟨asked, rfl⟩
      rcases goes_copyFrom noClient asked with ⟨rfl, error, rfl, refuses⟩
      refine ⟨rfl, rfl, ?_⟩
      exact isRefused_of_copy (.copyIndexFileFrom directory sourceName target targetName) rfl refuses
  | copyFileFrom directory file target =>
      rcases goes_apart_iff.mp goes with ⟨asked, rfl⟩
      rcases goes_copyFrom noClient asked with ⟨rfl, error, rfl, refuses⟩
      refine ⟨rfl, rfl, ?_⟩
      exact isRefused_of_copy (.copyFileFrom directory file target) rfl refuses
  | copyIndexFileTo source sourceName directory targetName =>
      rcases goes_copyIndexFileTo noClient goes with ⟨rfl, rfl, error, rfl, refuses⟩
      refine ⟨rfl, rfl, ?_⟩
      exact isRefused_of_copy (.copyIndexFileTo source sourceName directory targetName) rfl refuses
  | copyFileTo source file directory =>
      rw [serve, Repository.copyFileTo] at goes
      split at goes
      next isLayout =>
        rcases goes_copyIndexFileTo noClient goes with ⟨rfl, rfl, error, rfl, refuses⟩
        refine ⟨rfl, rfl, isRefused_of_copy (.copyFileTo source file directory) ?_ refuses⟩
        rw [Request.check, isLayout]
      next isLayout =>
        rcases goes_copyIndexFileTo noClient goes with ⟨rfl, rfl, error, rfl, refuses⟩
        refine ⟨rfl, rfl, isRefused_of_copy (.copyFileTo source file directory) ?_ refuses⟩
        rw [Request.check, isLayout]

/-! ## Steps and runs -/

variable {service next : Service Handle} {events : List (Event Handle)} {event : Event Handle}
  {exchange : ServiceTranscript Handle}

/-- A dialogue that is sent to a client goes as it does by itself, and with that client only. -/
theorem goes_sentTo {client : Option Handle} {dialogue : StoreDialogue Result} {result : Result}
    (goes : (StoreDialogue.sentTo client dialogue).Goes exchange result) :
    (∀ sent ∈ exchange, sent.1.client = client) ∧
      dialogue.Goes (exchange.map fun sent => ⟨sent.1.call, sent.2⟩) result := by
  induction dialogue generalizing exchange with
  | done value =>
      rcases Goes.done_iff.mp goes with ⟨rfl, rfl⟩
      exact ⟨by simp, Goes.done_iff.mpr ⟨rfl, rfl⟩⟩
  | ask call rest induction =>
      rcases Goes.ask_iff.mp goes with ⟨reply, later, rfl, goesOn⟩
      rcases induction reply goesOn with ⟨sameClient, asItself⟩
      exact ⟨List.forall_mem_cons.mpr ⟨rfl, sameClient⟩,
        Goes.ask_iff.mpr ⟨reply, _, rfl, asItself⟩⟩

/-- The service with other properties and another client. -/
def taking (service : Service Handle) (properties : Properties) (client : Handle) :
    Service Handle :=
  { service with repository := { service.repository with properties, client := some client } }

/-- What can come of an event after others, with which calls, and in what it leaves the service. -/
inductive Follows (events : List (Event Handle)) (service : Service Handle) :
    (event : Event Handle) → ServiceTranscript Handle → event.Outcome → Service Handle → Prop
  /-- An init that fails leaves everything as it is. -/
  | initFails {connect : Settings → Except RepoError Handle} {properties : Properties}
      {environment : String → Option String} {error : RepoError}
      (fails : (Settings.resolve properties environment >>= connect) = .error error) :
      Follows events service (.init connect properties environment) [] (.error error) service
  /-- One that succeeds replaces properties and client together. -/
  | init {connect : Settings → Except RepoError Handle} {properties : Properties}
      {environment : String → Option String} {client : Handle}
      (connects : (Settings.resolve properties environment >>= connect) = .ok client) :
      Follows events service (.init connect properties environment) [] (.ok ())
        (service.taking properties client)
  | initWithFails {connect : Settings → Except RepoError Handle} {properties : Properties}
      {settings : Settings} {error : RepoError} (fails : connect settings = .error error) :
      Follows events service (.initWith connect properties settings) [] (.error error) service
  | initWith {connect : Settings → Except RepoError Handle} {properties : Properties}
      {settings : Settings} {client : Handle} (connects : connect settings = .ok client) :
      Follows events service (.initWith connect properties settings) [] (.ok ())
        (service.taking properties client)
  | close : Follows events service .close [] ()
      { service with repository := { service.repository with client := none } }
  /-- All calls of a request go to the client of the last successful init. -/
  | served {request : Request} {exchange : ServiceTranscript Handle}
      {outcome : Except RepoError request.Reply} {tree : Local.Tree} {client : Handle}
      (owns : Event.Owns events client) (sent : ∀ sent ∈ exchange, sent.1.client = some client) :
      Follows events service (.request request) exchange outcome { service with tree }
  /-- Where there is no client, a request makes no calls and changes nothing. -/
  | idle {request : Request} {outcome : Except RepoError request.Reply}
      (nobody : ∀ client, ¬Event.Owns events client)
      (idles : request.Idles service.repository outcome) :
      Follows events service (.request request) [] outcome service

/-- Whether a service has the client and the properties that it should have after events. -/
structure Tracks (events : List (Event Handle)) (service : Service Handle) : Prop where
  client : ∀ client, service.repository.client = some client ↔ Event.Owns events client
  properties : Event.Configures events service.repository.properties

theorem tracks_new (layout : Namespace) (pageLimit : Nat) (tree : Local.Tree) :
    Tracks [] (new layout pageLimit tree : Service Handle) where
  client client := iff_of_false (by simp [new, Repository.new]) Since.not_nil
  properties := .inr ⟨rfl, by simp⟩

theorem goes_initWith {connect : Settings → Except RepoError Handle} {properties : Properties}
    {settings : Settings} {outcome : Except RepoError Unit}
    (goes : (service.step (.initWith connect properties settings)).Goes exchange (outcome, next)) :
    exchange = [] ∧
      ((∃ error, connect settings = .error error ∧ outcome = .error error ∧ next = service) ∨
        ∃ client, connect settings = .ok client ∧ outcome = .ok () ∧
          next = service.taking properties client) := by
  rcases Goes.done_iff.mp goes with ⟨same, rfl⟩
  refine ⟨rfl, ?_⟩
  cases connected : connect settings with
  | error error =>
      rw [connected] at same
      cases same
      exact .inl ⟨error, rfl, rfl, rfl⟩
  | ok client =>
      rw [connected] at same
      cases same
      exact .inr ⟨client, rfl, rfl, rfl⟩

theorem goes_init {connect : Settings → Except RepoError Handle} {properties : Properties}
    {environment : String → Option String} {outcome : Except RepoError Unit}
    (goes : (service.step (.init connect properties environment)).Goes exchange (outcome, next)) :
    service.Follows events (.init connect properties environment) exchange outcome next := by
  cases resolved : Settings.resolve properties environment with
  | error error =>
      rw [step, Repository.init, resolved] at goes
      rcases Goes.done_iff.mp goes with ⟨same, rfl⟩
      cases same
      exact .initFails (by rw [resolved]; rfl)
  | ok settings =>
      have asInitWith : (service.step (.initWith connect properties settings)).Goes exchange
          (outcome, next) := by
        rw [step, Repository.init, resolved] at goes
        exact goes
      rcases goes_initWith asInitWith with
        ⟨rfl, ⟨error, fails, rfl, rfl⟩ | ⟨client, connects, rfl, rfl⟩⟩
      · exact .initFails (by rw [resolved]; exact fails)
      · exact .init (by rw [resolved]; exact connects)

/-- What comes of an event follows from who owns the client. -/
theorem Tracks.follows {outcome : event.Outcome} (tracks : service.Tracks events)
    (goes : (service.step event).Goes exchange (outcome, next)) :
    service.Follows events event exchange outcome next := by
  cases event with
  | init connect properties environment => exact goes_init goes
  | initWith connect properties settings =>
      rcases goes_initWith goes with ⟨rfl, ⟨error, fails, rfl, rfl⟩ | ⟨client, connects, rfl, rfl⟩⟩
      · exact .initWithFails fails
      · exact .initWith connects
  | close =>
      rcases Goes.done_iff.mp goes with ⟨same, rfl⟩
      cases same
      exact .close
  | request request =>
      rcases Goes.andThen_iff.mp goes with ⟨⟨answer, tree⟩, early, _, rfl, serving, ended⟩
      rcases Goes.done_iff.mp ended with ⟨same, rfl⟩
      cases same
      rw [List.append_nil]
      rcases goes_sentTo serving with ⟨sent, asItself⟩
      cases isClient : service.repository.client with
      | some client =>
          rw [isClient] at sent
          exact .served ((tracks.client client).mp isClient) sent
      | none =>
          rcases idles_serve isClient asItself with ⟨silent, rfl, idles⟩
          cases List.map_eq_nil_iff.mp silent
          refine .idle ?_ idles
          intro client owns
          rw [(tracks.client client).mpr owns] at isClient
          cases isClient

theorem Tracks.taking {properties : Properties} {client : Handle}
    (gives : event.given? = some (properties, client)) :
    (service.taking properties client).Tracks (events ++ [event]) where
  client other := by
    rw [Event.owns_concat_iff, gives]
    simp [Service.taking, eq_comm]
  properties := Event.configures_concat_of_given gives

theorem Tracks.keeping (tracks : service.Tracks events)
    (nothing : event.given? = none) (notClose : event ≠ .close) :
    service.Tracks (events ++ [event]) where
  client client := by
    rw [tracks.client client, Event.owns_concat_iff, nothing]
    simp [notClose]
  properties := Event.configures_concat_of_none nothing tracks.properties

/-- After what follows, the service has the client and the properties that it should have. -/
theorem Follows.tracks {outcome : event.Outcome}
    (follows : service.Follows events event exchange outcome next)
    (tracks : service.Tracks events) : next.Tracks (events ++ [event]) := by
  cases follows with
  | initFails fails => exact tracks.keeping (by rw [Event.given?, fails]) (by simp)
  | init connects => exact .taking (by rw [Event.given?, connects])
  | initWithFails fails => exact tracks.keeping (by rw [Event.given?, fails]) (by simp)
  | initWith connects => exact .taking (by rw [Event.given?, connects])
  | close =>
      constructor
      · intro client
        rw [Event.owns_concat_iff]
        simp [Event.given?]
      · exact Event.configures_concat_of_none rfl tracks.properties
  | @served request exchange outcome tree client owns sent =>
      have kept : service.Tracks (events ++ [.request request]) := tracks.keeping rfl (by simp)
      exact ⟨kept.client, kept.properties⟩
  | idle nobody idles => exact tracks.keeping rfl (by simp)

theorem Tracks.play {last : Service Handle} {more : List (Event Handle)}
    (tracks : service.Tracks events) (played : (service.play more).Goes exchange last) :
    last.Tracks (events ++ more) := by
  induction more generalizing events service exchange with
  | nil =>
      rcases Goes.done_iff.mp played with ⟨rfl, rfl⟩
      rw [List.append_nil]
      exact tracks
  | cons event more induction =>
      rcases Goes.andThen_iff.mp played with ⟨⟨outcome, middle⟩, early, late, rfl, stepped, rest⟩
      have further := induction ((tracks.follows stepped).tracks tracks) rest
      rwa [List.append_assoc] at further

/-- Whatever a host does with a repository, from its beginning on: the client is the one that the last
successful init gave, with no close after it, and the properties are those of the last successful init.
What comes of any further event follows from that. -/
theorem client_is_last_given (layout : Namespace) (pageLimit : Nat) (tree : Local.Tree)
    {events : List (Event Handle)} {exchange : ServiceTranscript Handle} {service : Service Handle}
    (played : ((new layout pageLimit tree).play events).Goes exchange service) :
    service.Tracks events ∧
      ∀ event further outcome next, (service.step event).Goes further (outcome, next) →
        service.Follows events event further outcome next := by
  have tracks := (tracks_new layout pageLimit tree).play played
  exact ⟨tracks, fun event further outcome next goes => tracks.follows goes⟩

/-! A host that connects twice, with a close between, and then fails to connect a third time; and one
that has only closed. -/

private def lend (client : Nat) : Event Nat :=
  .initWith (fun _ => .ok client) .empty ⟨"b", "r", none, none, "a", "s", false⟩

private def lendNothing : Event Nat :=
  .initWith (fun _ => .error (.config "invalid proxy")) .empty ⟨"b", "r", none, none, "a", "s", false⟩

private def unlent : Service Nat := new .hierarchical 10 (.bare ["w"])

theorem client_is_last_given_lent :
    Event.Owns [lend 1, .close, lend 2, lendNothing] 2 ∧
      (∀ further outcome next, ((unlent.taking .empty 2).step
          (.request (.listAll (.root .s3)))).Goes further (outcome, next) →
        ∀ sent ∈ further, sent.1.client = some 2) ∧
      ∀ further outcome next, (unlent.step (.request (.listAll (.root .s3)))).Goes further
          (outcome, next) → further = [] ∧ next = unlent := by
  have lent : (unlent.play [lend 1, .close, lend 2, lendNothing]).Goes [] (unlent.taking .empty 2) :=
    Goes.done_iff.mpr ⟨rfl, rfl⟩
  have closed : (unlent.play [.close]).Goes [] unlent := Goes.done_iff.mpr ⟨rfl, rfl⟩
  have served := client_is_last_given .hierarchical 10 (.bare ["w"]) lent
  have idle := client_is_last_given .hierarchical 10 (.bare ["w"]) closed
  have owns := (served.1.client 2).mp rfl
  refine ⟨owns, ?_, ?_⟩
  · intro further outcome next goes
    cases served.2 _ _ _ _ goes with
    | served others sent =>
        cases (served.1.client _).mpr others
        exact sent
    | idle nobody => exact absurd owns (nobody 2)
  · intro further outcome next goes
    cases idle.2 _ _ _ _ goes with
    | served others => cases (idle.1.client _).mpr others
    | idle => exact ⟨rfl, rfl⟩

end Service

end Depot
