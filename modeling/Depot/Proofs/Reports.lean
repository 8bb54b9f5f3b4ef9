import Depot.Session
import Depot.Proofs.Download
import Depot.Proofs.Keys
import Depot.Proofs.Transcripts

/-!
No failure of the store is swallowed. A task that reports goes no further when one of its calls fails,
or a stream that it reads to the end: it may abort an upload, and then fails for the same reason. The
only failures that may count as answers are those that say that nothing is there, and only where a
task can be told so. Each task has one lemma, and what these say of transcripts is proved once.
-/

namespace Depot

/-- How a task takes replies. -/
structure Manner where
  /-- The calls whose answer may be that nothing is there. -/
  tolerates : Call → Prop
  /-- Whether streams that are opened are read to the end. -/
  drains : Bool

namespace Manner

/-- The error of a reply that is none, or of reading the stream that it opens. -/
def failure? (manner : Manner) : (call : Call) → Call.Reply call → Option RepoError
  | .head _, .error error => some error
  | .openRead _, .error error => some error
  | .openRead _, .ok reader => if manner.drains then reader.failure.map RepoError.io else none
  | .openWrite _, .error error => some error
  | .putMarker _, .error error => some error
  | .deleteMany _, .error error => some error
  | .listPage _ _ _, .error error => some error
  | .write _ _, (.error error, _) => some error
  | .finish _, .error error => some error
  | _, _ => none

/-- Whether a failure is an answer: it says that nothing is there, to a call that may be told so. -/
def IsAnswer (manner : Manner) (call : Call) (error : RepoError) : Prop :=
  error.isNotFound = true ∧ manner.tolerates call

end Manner

/-- The calls that an operation lets say that nothing is there. -/
def Operation.Tolerates : Operation → Call → Prop
  | .pathExists _, .head _ => True
  | .pathType _, .head _ => True
  | .createDirectory _, .head _ => True
  | .copyFrom _ _ _ _, .head _ => True
  | .delete _ _ true, .deleteMany _ => True
  | _, _ => False

/-- Whether an operation reads the streams that it opens. What is only opened is left to the host. -/
def Operation.drains : Operation → Bool
  | .copyIndexFileTo _ _ _ _ _ => true
  | .copyFileTo _ _ _ _ => true
  | _ => false

def Operation.manner (operation : Operation) : Manner := ⟨operation.Tolerates, operation.drains⟩

/-- The operations that report every failure. Making sure of a directory is left out, which is a
convenience, and so is what a host writes to a file that it has opened. -/
def Operation.IsReporting : Operation → Prop
  | .createUri _ => False
  | .output _ chunks _ => chunks = []
  | _ => True

abbrev CallTranscript : Type := Dialogue.Transcript Call Call.Reply

namespace StoreDialogue

open Dialogue

variable {Result Next : Type} {fails : Result → RepoError → Prop}
  {failsNext : Next → RepoError → Prop} {manner : Manner} {error : RepoError}

/-- Whether a dialogue asks for nothing but to abort, and then fails for the reason of an error. -/
def GivesUp (fails : Result → RepoError → Prop) (error : RepoError) : StoreDialogue Result → Prop
  | .done result => ∃ reported, fails result reported ∧ reported.rootCause = error.rootCause
  | .ask call next => call.kind = .abort ∧ ∀ reply, GivesUp fails error (next reply)

/-- Whether a dialogue gives up at the first failure of a call that is no answer. -/
def Reports (manner : Manner) (fails : Result → RepoError → Prop) :
    StoreDialogue Result → Prop
  | .done _ => True
  | .ask call next => ∀ reply,
      ((∀ error, manner.failure? call reply = some error → manner.IsAnswer call error) →
        Reports manner fails (next reply)) ∧
      ∀ error, manner.failure? call reply = some error → ¬manner.IsAnswer call error →
        GivesUp fails error (next reply)

theorem GivesUp.ofSameCause {dialogue : StoreDialogue Result} {other : RepoError}
    (givesUp : GivesUp fails other dialogue) (same : other.rootCause = error.rootCause) :
    GivesUp fails error dialogue := by
  induction dialogue with
  | done result =>
      rcases givesUp with ⟨reported, failed, cause⟩
      exact ⟨reported, failed, cause.trans same⟩
  | ask call next induction => exact ⟨givesUp.1, fun reply => induction reply (givesUp.2 reply)⟩

theorem GivesUp.andThen {first : StoreDialogue Result} {second : Result → StoreDialogue Next}
    (givesUp : GivesUp fails error first)
    (passes : ∀ result reported, fails result reported →
      GivesUp failsNext reported (second result)) :
    GivesUp failsNext error (first.andThen second) := by
  induction first with
  | done result =>
      rcases givesUp with ⟨reported, failed, sameCause⟩
      exact (passes result reported failed).ofSameCause sameCause
  | ask call next induction => exact ⟨givesUp.1, fun reply => induction reply (givesUp.2 reply)⟩

theorem GivesUp.surfaces {dialogue : StoreDialogue Result} {transcript : CallTranscript}
    {result : Result} (givesUp : GivesUp fails error dialogue)
    (goes : dialogue.Goes transcript result) :
    (∃ reported, fails result reported ∧ reported.rootCause = error.rootCause) ∧
      ∀ asked ∈ transcript, asked.1.kind = .abort := by
  induction dialogue generalizing transcript with
  | done value =>
      rcases Goes.done_iff.mp goes with ⟨rfl, rfl⟩
      exact ⟨givesUp, by simp⟩
  | ask asked next induction =>
      rcases Goes.ask_iff.mp goes with ⟨reply, rest, rfl, goesOn⟩
      rcases induction reply (givesUp.2 reply) goesOn with ⟨failed, onlyAborts⟩
      exact ⟨failed, List.forall_mem_cons.mpr ⟨givesUp.1, onlyAborts⟩⟩

namespace Reports

theorem andThen {first : StoreDialogue Result} {second : Result → StoreDialogue Next}
    (before : Reports manner fails first)
    (after : ∀ result, Reports manner failsNext (second result))
    (passes : ∀ result reported, fails result reported →
      GivesUp failsNext reported (second result)) :
    Reports manner failsNext (first.andThen second) := by
  induction first with
  | done result => exact after result
  | ask call next induction =>
      intro reply
      refine ⟨fun answered => induction reply ((before reply).1 answered), ?_⟩
      intro error failed noAnswer
      exact ((before reply).2 error failed noAnswer).andThen passes

theorem surfaces {dialogue : StoreDialogue Result} {transcript : CallTranscript} {result : Result}
    (reports : Reports manner fails dialogue) (goes : dialogue.Goes transcript result)
    {before after : CallTranscript} {call : Call} {reply : Call.Reply call}
    (place : transcript = before ++ ⟨call, reply⟩ :: after)
    (failed : manner.failure? call reply = some error) (noAnswer : ¬manner.IsAnswer call error) :
    (∃ reported, fails result reported ∧ reported.rootCause = error.rootCause) ∧
      ∀ later ∈ after, later.1.kind = .abort := by
  induction dialogue generalizing transcript before with
  | done value =>
      rcases Goes.done_iff.mp goes with ⟨-, nothing⟩
      rw [nothing] at place
      exact absurd place.symm (List.append_ne_nil_of_right_ne_nil _ (List.cons_ne_nil _ _))
  | ask asked next induction =>
      rcases Goes.ask_iff.mp goes with ⟨told, rest, rfl, goesOn⟩
      cases before with
      | nil =>
          cases place
          exact ((reports reply).2 error failed noAnswer).surfaces goesOn
      | cons first before =>
          rw [List.cons_append, List.cons.injEq] at place
          rcases place with ⟨rfl, place⟩
          by_cases answered : ∀ error, manner.failure? asked told = some error →
              manner.IsAnswer asked error
          · exact induction told ((reports told).1 answered) goesOn place
          · -- The dialogue gave up before, and an abort does not fail.
            rcases Classical.not_forall.mp answered with ⟨other, given⟩
            rcases Classical.not_imp.mp given with ⟨failedBefore, noAnswerBefore⟩
            have gaveUp := (reports told).2 other failedBefore noAnswerBefore
            have isAbort := (gaveUp.surfaces goesOn).2 ⟨call, reply⟩ (by simp [place])
            cases call <;> cases isAbort
            cases failed

/-- A single call reports if its failure is that of the dialogue. -/
theorem question {call : Call} {fails : Call.Reply call → RepoError → Prop}
    (reads : ∀ reply error, manner.failure? call reply = some error → fails reply error) :
    Reports manner fails (.ask call .done) :=
  fun reply => ⟨fun _ => trivial, fun error failed _ => ⟨error, reads reply error failed, rfl⟩⟩

end Reports

end StoreDialogue

namespace StoreTask

open Dialogue StoreDialogue

variable {Result Next : Type} {manner : Manner}

def Reports (manner : Manner) (task : StoreTask Result) : Prop :=
  StoreDialogue.Reports manner (fun result error => result = .error error) task.run

namespace Reports

theorem bind {first : StoreTask Result} {second : Result → StoreTask Next}
    (before : Reports manner first) (after : ∀ value, Reports manner (second value)) :
    Reports manner (first >>= second) := by
  rw [Reports, run_bind]
  apply StoreDialogue.Reports.andThen before
  · intro result
    cases result with
    | ok value => exact after value
    | error error => trivial
  · intro result reported failed
    subst failed
    exact ⟨reported, rfl, rfl⟩

theorem liftExcept (value : Except RepoError Result) :
    Reports manner (liftM value : StoreTask Result) := by
  cases value <;> trivial

end Reports

end StoreTask

open StoreTask

variable {manner : Manner}

/-! ## Each call -/

namespace Client

variable {key : ObjectKey}

theorem reports_head : Reports manner (head key) :=
  .question fun reply error failed => by cases reply <;> cases failed; rfl

theorem reports_openRead (leaves : manner.drains = false) : Reports manner (openRead key) :=
  .question fun reply error failed => by
    cases reply with
    | ok reader => simp [Manner.failure?, leaves] at failed
    | error error => cases failed; rfl

theorem reports_openWrite : Reports manner (openWrite key) :=
  .question fun reply error failed => by cases reply <;> cases failed; rfl

theorem reports_putMarker : Reports manner (putMarker key) :=
  .question fun reply error failed => by cases reply <;> cases failed; rfl

theorem reports_deleteMany {keys : KeySet} : Reports manner (deleteMany keys) :=
  .question fun reply error failed => by cases reply <;> cases failed; rfl

theorem reports_listPage {lead : String} {delimiter token : Option String} :
    Reports manner (listPage lead delimiter token) :=
  .question fun reply error failed => by cases reply <;> cases failed; rfl

theorem reports_finish {upload : Upload} : Reports manner (finish upload) :=
  .question fun reply error failed => by cases reply <;> cases failed; rfl

theorem reports_write {upload : Upload} {chunk : ByteArray} :
    StoreDialogue.Reports manner (fun result error => result.1 = .error error)
      (write upload chunk) :=
  .question fun reply error failed => by
    rcases reply with ⟨written, upload⟩
    cases written <;> cases failed
    rfl

/-- Asking whether something is there takes it for an answer that nothing is. -/
theorem reports_head? (isTolerated : manner.tolerates (.head key)) : Reports manner (head? key) := by
  intro reply
  constructor
  · intro _
    cases reply with
    | ok found => trivial
    | error error => cases error <;> trivial
  · intro error failed noAnswer
    cases reply with
    | ok found => cases failed
    | error other =>
        cases failed
        cases error
        case notFound => exact absurd ⟨rfl, isTolerated⟩ noAnswer
        all_goals exact ⟨_, rfl, rfl⟩

theorem reports_exists? (isTolerated : manner.tolerates (.head key)) : Reports manner (exists? key) :=
  (reports_head? isTolerated).bind fun _ => trivial

theorem reports_isDirectory (isTolerated : manner.tolerates (.head key)) :
    Reports manner (isDirectory key) := by
  apply (reports_head? isTolerated).bind
  intro found
  cases found <;> trivial

theorem reports_headLength : Reports manner (headLength key) := by
  apply reports_head.bind
  intro found
  split <;> trivial

end Client

/-! ## Directories -/

namespace Directory

variable {lead : String} {delimiter token : Option String} {limit left : Nat} {key : ObjectKey}

theorem reports_collectPages :
    Reports manner (collectPages lead delimiter limit left token) := by
  induction left generalizing token with
  | zero => trivial
  | succ left induction =>
      apply Client.reports_listPage.bind
      intro page
      split
      · trivial
      · exact induction.bind fun _ => trivial

theorem reports_hasEntryBelow : Reports manner (hasEntryBelow lead limit left token) := by
  induction left generalizing token with
  | zero => trivial
  | succ left induction =>
      apply Client.reports_listPage.bind
      intro page
      split
      · trivial
      · split
        · trivial
        · exact induction

theorem reports_pathExists {layout : Namespace} (heads : ∀ key, manner.tolerates (.head key)) :
    Reports manner (pathExists layout limit key) := by
  unfold pathExists
  split
  · trivial
  · cases layout with
    | flat => exact Client.reports_exists? (heads _)
    | hierarchical =>
        apply (Client.reports_exists? (heads _)).bind
        intro stored
        split
        · trivial
        · split
          · exact reports_hasEntryBelow
          · trivial

theorem reports_unmarked {directory : ObjectKey} (heads : ∀ key, manner.tolerates (.head key)) :
    Reports manner (unmarked directory) := by
  induction directory using ObjectKey.upwards with
  | step directory induction =>
      rw [unmarked]
      split
      · trivial
      · apply (Client.reports_exists? (heads _)).bind
        intro stored
        split
        · trivial
        · split
          · trivial
          · next above parent => exact (induction above parent).bind fun _ => trivial

theorem reports_putMarkers {keys : List ObjectKey} : Reports manner (putMarkers keys) := by
  induction keys with
  | nil => trivial
  | cons key keys induction => exact Client.reports_putMarker.bind fun _ => induction

theorem reports_create {layout : Namespace} (heads : ∀ key, manner.tolerates (.head key)) :
    Reports manner (create layout key) := by
  cases layout with
  | flat => trivial
  | hierarchical => exact (reports_unmarked heads).bind fun _ => reports_putMarkers

theorem reports_delete : Reports manner (delete limit key) := by
  rw [delete]
  split
  · trivial
  · apply StoreTask.Reports.bind
    · exact reports_collectPages.bind fun _ => trivial
    · intro found
      rw [deleteKeys]
      split
      · trivial
      · exact Client.reports_deleteMany

theorem reports_children : Reports manner (children limit key) :=
  reports_collectPages.bind fun _ => trivial

theorem reports_classify {layout : Namespace} (heads : ∀ key, manner.tolerates (.head key)) :
    Reports manner (classify layout key) := by
  cases layout with
  | flat => trivial
  | hierarchical =>
      rw [classify]
      split
      · trivial
      · apply (Client.reports_isDirectory (heads _)).bind
        intro isDirectory
        split
        · trivial
        · split
          · trivial
          · exact (Client.reports_isDirectory (heads _)).bind fun _ => trivial

end Directory

/-! ## Copies -/

namespace Transfer

open StoreDialogue

variable {chunkSize footerLength : Nat} {source : IndexInput} {upload : Upload}

theorem reports_writeBody {reader : Reader} {register : UInt32} {remaining : Nat} :
    StoreDialogue.Reports manner (fun result error => result.1 = .error error)
      (writeBody chunkSize reader register upload remaining) := by
  induction remaining using Nat.strongRecOn generalizing reader register upload with
  | ind remaining induction =>
      rw [writeBody]
      split
      · trivial
      · simp only
        split
        · trivial
        · apply Client.reports_write.andThen
          · rintro ⟨written, upload⟩
            cases written with
            | error error => trivial
            | ok =>
                apply induction
                omega
          · rintro ⟨written, upload⟩ reported failed
            cases failed
            exact ⟨reported, rfl, rfl⟩

theorem reports_writeFile :
    StoreDialogue.Reports manner (fun result error => result.1 = .error error)
      (writeFile chunkSize source footerLength upload) := by
  apply reports_writeBody.andThen
  · rintro ⟨body, upload⟩
    cases body with
    | error error => trivial
    | ok body =>
        simp only
        split
        · trivial
        · split
          · trivial
          · apply Client.reports_write.andThen
            · intro _
              trivial
            · rintro ⟨written, upload⟩ reported failed
              cases failed
              exact ⟨reported, rfl, rfl⟩
  · rintro ⟨body, upload⟩ reported failed
    cases failed
    exact ⟨reported, rfl, rfl⟩

/-- An upload whose writing failed is aborted, and an error keeps its cause behind the key. -/
theorem reports_intoStore {target : ObjectKey} :
    StoreTask.Reports manner (intoStore chunkSize source footerLength target) := by
  rw [intoStore]
  split
  · trivial
  · apply Client.reports_openWrite.andThen
    · intro opened
      cases opened with
      | error error => trivial
      | ok upload =>
          apply reports_writeFile.andThen
          · rintro ⟨streamed, upload⟩
            cases streamed with
            | error error => exact fun _ => ⟨fun _ => trivial, fun _ never => nomatch never⟩
            | ok size =>
                apply Client.reports_finish.andThen
                · intro finished
                  cases finished <;> trivial
                · rintro finished reported failed
                  subst failed
                  exact ⟨_, rfl, RepoError.rootCause_inTransfer _ _⟩
          · rintro ⟨streamed, upload⟩ reported failed
            cases failed
            exact ⟨rfl, fun _ => ⟨_, rfl, RepoError.rootCause_inTransfer _ _⟩⟩
    · intro opened reported failed
      subst failed
      exact ⟨reported, rfl, rfl⟩

/-- A download fails if its stream cannot be opened or breaks off. -/
theorem reports_outOfStore {key : ObjectKey} :
    StoreDialogue.Reports manner (fun result error => result.1 = .error error)
      (outOfStore chunkSize key .unlimited) := by
  intro reply
  constructor
  · intro _
    cases reply <;> trivial
  · intro error failed _
    cases reply with
    | error error =>
        cases failed
        exact ⟨error, rfl, rfl⟩
    | ok reader =>
        cases drains : manner.drains with
        | false => simp [Manner.failure?, drains] at failed
        | true =>
            simp only [Manner.failure?, drains, if_true, Option.map_eq_some_iff] at failed
            rcases failed with ⟨cause, breaks, rfl⟩
            have broken : ending reader .unlimited reader.remaining = .error cause :=
              ending_eq_error_iff.mpr (.inl breaks)
            simp only [Dialogue.done_andThen, copyAll_unlimited, broken]
            exact ⟨.inTransfer key.text (.io cause), rfl, RepoError.rootCause_inTransfer _ _⟩

end Transfer

/-! ## Operations -/

namespace Repository

variable {Handle : Type} {repository : Repository Handle} {path : LogicalPath}

theorem reports_delete {files : List String} {ignoreMissing : Bool}
    (ignores : ignoreMissing = true → ∀ keys, manner.tolerates (.deleteMany keys)) :
    Reports manner (repository.delete path files ignoreMissing) := by
  apply (StoreTask.Reports.liftExcept _).bind
  intro keys
  split
  · trivial
  · apply (StoreTask.Reports.liftExcept _).bind
    intro _ reply
    constructor
    · intro _
      cases reply with
      | ok found => trivial
      | error error => cases error <;> trivial
    · intro error failed noAnswer
      cases reply with
      | ok found => cases failed
      | error other =>
          cases failed
          cases error
          case notFound missing =>
            cases ignoreMissing with
            | true => exact absurd ⟨rfl, ignores rfl _⟩ noAnswer
            | false => exact ⟨_, rfl, rfl⟩
          all_goals exact ⟨_, rfl, rfl⟩

theorem reports_copyFrom {source : IndexSource} {sourceName targetName : String}
    (heads : ∀ key, manner.tolerates (.head key)) :
    Reports manner (repository.copyFrom source sourceName path targetName) := by
  apply (StoreTask.Reports.liftExcept _).bind
  intro prepared
  apply StoreTask.Reports.bind
  · rw [createParent]
    split
    · trivial
    · exact Directory.reports_create heads
  · intro _
    exact Transfer.reports_intoStore.bind fun _ => trivial

theorem reports_copyIndexFileTo {sourceName directory targetName : String} {tree : Local.Tree} :
    StoreDialogue.Reports manner (fun result error => result.1 = .error error)
      (repository.copyIndexFileTo path sourceName tree directory targetName) := by
  rw [copyIndexFileTo]
  split
  · trivial
  · apply Client.reports_headLength.andThen
    · intro length
      cases length with
      | error error => trivial
      | ok length =>
          simp only
          split
          · trivial
          · apply Transfer.reports_outOfStore.andThen
            · intro _
              trivial
            · rintro ⟨copied, file⟩ reported failed
              cases failed
              exact ⟨reported, rfl, rfl⟩
    · intro length reported failed
      subst failed
      exact ⟨reported, rfl, rfl⟩

theorem reports_copyFileTo {file directory : String} {tree : Local.Tree} :
    StoreDialogue.Reports manner (fun result error => result.1 = .error error)
      (repository.copyFileTo path file tree directory) := by
  rw [copyFileTo]
  split <;> exact reports_copyIndexFileTo

theorem reports_perform {operation : Operation} (reporting : operation.IsReporting) :
    Reports operation.manner (repository.perform operation) := by
  cases operation with
  | createUri location => exact reporting.elim
  | pathExists path =>
      apply StoreTask.Reports.bind
      · apply (StoreTask.Reports.liftExcept _).bind
        intro _
        exact Directory.reports_pathExists fun _ => trivial
      · intro _
        trivial
  | createDirectory path =>
      apply (StoreTask.Reports.liftExcept _).bind
      intro _
      exact Directory.reports_create fun _ => trivial
  | deleteDirectory path =>
      apply (StoreTask.Reports.liftExcept _).bind
      intro _
      exact Directory.reports_delete
  | listAll path =>
      apply StoreTask.Reports.bind
      · exact (StoreTask.Reports.liftExcept _).bind fun _ => Directory.reports_children
      · intro _
        trivial
  | pathType path =>
      apply StoreTask.Reports.bind
      · apply (StoreTask.Reports.liftExcept _).bind
        intro _
        exact Directory.reports_classify fun _ => trivial
      · intro _
        trivial
  | delete path files ignoreMissing =>
      apply reports_delete
      intro ignores _
      subst ignores
      trivial
  | openInput path file =>
      apply StoreTask.Reports.bind
      · apply (StoreTask.Reports.liftExcept _).bind
        intro _
        apply (StoreTask.Reports.liftExcept _).bind
        intro key
        apply (StoreTask.Reports.liftExcept _).bind
        intro _
        apply Client.reports_headLength.bind
        intro length
        exact (Client.reports_openRead rfl).bind fun _ => trivial
      · intro _
        trivial
  | output path chunks ending =>
      cases reporting
      apply StoreTask.Reports.bind
      · apply (StoreTask.Reports.liftExcept _).bind
        intro key
        apply (StoreTask.Reports.liftExcept _).bind
        intro _
        exact Client.reports_openWrite
      · intro upload
        cases ending with
        | finish => exact Client.reports_finish
        | abort => exact fun _ => ⟨fun _ => trivial, fun _ never => nomatch never⟩
        | drop => trivial
  | copyFrom source sourceName target targetName => exact reports_copyFrom fun _ => trivial
  | copyIndexFileTo source sourceName tree directory targetName =>
      apply reports_copyIndexFileTo.andThen
      · intro _
        trivial
      · rintro ⟨copied, tree⟩ reported failed
        exact ⟨reported, failed, rfl⟩
  | copyFileTo source file tree directory =>
      apply reports_copyFileTo.andThen
      · intro _
        trivial
      · rintro ⟨copied, tree⟩ reported failed
        exact ⟨reported, failed, rfl⟩

end Repository

end Depot
