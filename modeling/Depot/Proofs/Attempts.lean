import Depot.Session
import Depot.Proofs.Failures
import Depot.Proofs.Keys
import Depot.Proofs.Outlines

/-!
A store in memory behind a client whose calls may fail at any time and with any error, also with one
that claims that nothing is there. Calls that only look leave the store alone whatever is said, and
calls whose failures mislead nobody go on as with plain failures. So which calls a task may make
decides what can become of the store.
-/

namespace Depot.Memory

/-- What can happen at a call: the store serves it, or it fails with any error. A stream that is
opened may hand out anything. -/
inductive Tried : Store → (call : Call) → Call.Reply call → Store → Prop
  | served (store : Store) (call : Call) :
      Tried store call (store.respond call).1 (store.respond call).2
  | opened (store : Store) (key : ObjectKey) (reader : Reader) :
      Tried store (.openRead key) (.ok reader) store
  | refused (store : Store) (call : Call) (error : RepoError) :
      Tried store call (call.refuse error) store

end Depot.Memory

namespace Depot

/-- Calls that only look, or write what nobody sees yet. -/
def Call.Looks : Call → Prop
  | .putMarker _ => False
  | .deleteMany _ => False
  | .finish _ => False
  | _ => True

/-- Calls that ask about one object or for its bytes. -/
def Call.Reads : Call → Prop
  | .head _ => True
  | .openRead _ => True
  | _ => False

theorem Call.Reads.looks {call : Call} (reads : call.Reads) : call.Looks := by
  cases call <;> trivial

/-- Calls that ask about one object or for a page of a listing. -/
def Call.Surveys : Call → Prop
  | .head _ => True
  | .listPage _ _ _ => True
  | _ => False

theorem Call.Surveys.looks {call : Call} (surveys : call.Surveys) : call.Looks := by
  cases call <;> trivial

/-- Calls whose failure cannot be taken for an answer. -/
def Call.IsPlain : Call → Prop
  | .head _ => False
  | .openRead _ => False
  | _ => True

def Call.IsWrite : Call → Prop
  | .write _ _ => True
  | _ => False

end Depot

namespace Depot.Memory

open Dialogue

variable {Result : Type} {before after : Store} {dialogue : StoreDialogue Result} {result : Result}

/-! ## What tasks can do -/

theorem Store.respond_of_looks {store : Store} {call : Call} (looks : call.Looks) :
    (store.respond call).2 = store := by
  cases call
  case putMarker => exact looks.elim
  case deleteMany => exact looks.elim
  case finish => exact looks.elim
  all_goals rfl

theorem Tried.eq_of_looks {call : Call} {reply : Call.Reply call}
    (tried : Tried before call reply after) (looks : call.Looks) : after = before := by
  cases tried with
  | served => exact Store.respond_of_looks looks
  | opened => rfl
  | refused => rfl

theorem run_of_looks (asks : dialogue.Asks Call.Looks)
    (run : Run Tried dialogue before result after) :
    after = before := by
  induction run with
  | done => rfl
  | ask answered _ induction => exact (induction (asks.2 _)).trans (answered.eq_of_looks asks.1)

/-- A run of plain calls goes as one in which no failure misleads. -/
theorem run_of_plain (asks : dialogue.Asks Call.IsPlain)
    (run : Run Tried dialogue before result after) :
    ∃ last, Run Answered dialogue (.fresh before) result last ∧ last.store = after := by
  apply asks.run_of_run (fun (watched : Watched) store => watched.store = store) _ rfl run
  intro watched store call reply next isPlain same tried
  subst same
  cases tried with
  | served => exact ⟨_, .served _ _, rfl⟩
  | opened => exact isPlain.elim
  | refused _ error =>
      by_cases aborting : call.kind = .abort
      · cases call <;> cases aborting
        exact ⟨watched, .served _ _, rfl⟩
      · refine ⟨_, .refused error aborting ?_, rfl⟩
        intro isHead
        cases call <;> cases isHead
        exact isPlain.elim

/-- A stream may break off behind what a plan lets through. -/
theorem Tried.spoiled (plan : List Fault) (store : Store) (call : Call) :
    Tried store call (Fault.spoil plan call (store.respond call).1).1 (store.respond call).2 := by
  have served := Tried.served store call
  cases call with
  | openRead key =>
      cases found : store.look key with
      | error error =>
          simp only [Store.respond, found] at served ⊢
          exact served
      | ok object =>
          simp only [Store.respond, found, Except.map, Fault.spoil]
          split <;> exact .opened _ _ _
  | _ => exact served

/-- Running a dialogue on a store behind a plan of failures makes one of the runs. -/
theorem tried_of_interpose (plan : List Fault) (dialogue : StoreDialogue Result) (store : Store) :
    Run Tried dialogue store (dialogue.run (Fault.interpose Store.respond) (plan, store)).1
      (dialogue.run (Fault.interpose Store.respond) (plan, store)).2.2 := by
  let standsFor (inner : List Fault × Store) (store : Store) : Prop := inner.2 = store
  have keeps (inner : List Fault × Store) (store : Store) (call : Call)
      (stands : standsFor inner store) :
      ∃ next, Tried store call (Fault.interpose Store.respond inner call).1 next ∧
        standsFor (Fault.interpose Store.respond inner call).2 next := by
    subst stands
    refine ⟨_, ?_, rfl⟩
    rw [Fault.interpose]
    split
    · exact .refused _ _ _
    · exact .spoiled _ _ _
  rcases Run.exists_of_responder standsFor keeps dialogue (rfl : standsFor (plan, store) store) with
    ⟨after, run, rfl⟩
  exact run

end Depot.Memory

/-! ## What tasks ask -/

namespace Depot.Client

open Dialogue

variable {kind : Call → Prop} {key : ObjectKey}

theorem asks_head (heads : kind (.head key)) : (head key).run.Asks kind :=
  ⟨heads, fun _ => trivial⟩

theorem asks_head? (heads : kind (.head key)) : (head? key).run.Asks kind := by
  apply (asks_head heads).andThen
  intro reply
  split <;> trivial

theorem asks_exists? (heads : kind (.head key)) : (exists? key).run.Asks kind :=
  (asks_head? heads).bind fun _ => trivial

theorem asks_isDirectory (heads : kind (.head key)) : (isDirectory key).run.Asks kind := by
  apply (asks_head? heads).bind
  intro found
  cases found <;> trivial

theorem asks_headLength (heads : kind (.head key)) : (headLength key).run.Asks kind := by
  apply (asks_head heads).bind
  intro found
  split <;> trivial

end Depot.Client

namespace Depot.Directory

open Dialogue

variable {kind : Call → Prop} {lead : String} {delimiter token : Option String} {limit left : Nat}

theorem asks_listPage (lists : ∀ lead delimiter token, kind (.listPage lead delimiter token)) :
    (Client.listPage lead delimiter token).run.Asks kind :=
  ⟨lists _ _ _, fun _ => trivial⟩

theorem asks_collectPages (lists : ∀ lead delimiter token, kind (.listPage lead delimiter token)) :
    (collectPages lead delimiter limit left token).run.Asks kind := by
  induction left generalizing token with
  | zero => trivial
  | succ left induction =>
      apply (asks_listPage lists).bind
      intro page
      split
      · trivial
      · exact induction.bind fun _ => trivial

theorem surveys_hasEntryBelow :
    (hasEntryBelow lead limit left token).run.Asks Call.Surveys := by
  induction left generalizing token with
  | zero => trivial
  | succ left induction =>
      apply (asks_listPage fun _ _ _ => trivial).bind
      intro page
      split
      · trivial
      · split
        · trivial
        · exact induction

theorem surveys_pathExists {layout : Namespace} {key : ObjectKey} :
    (pathExists layout limit key).run.Asks Call.Surveys := by
  unfold pathExists
  split
  · trivial
  · cases layout with
    | flat => exact Client.asks_exists? trivial
    | hierarchical =>
        apply (Client.asks_exists? trivial).bind
        intro stored
        split
        · trivial
        · split
          · exact surveys_hasEntryBelow
          · trivial

theorem surveys_children {key : ObjectKey} : (children limit key).run.Asks Call.Surveys :=
  (asks_collectPages fun _ _ _ => trivial).bind fun _ => trivial

theorem asks_classify {layout : Namespace} {key : ObjectKey} :
    (classify layout key).run.Asks Call.Looks := by
  unfold classify
  cases layout with
  | flat => trivial
  | hierarchical =>
      simp only
      split
      · trivial
      · apply (Client.asks_isDirectory trivial).bind
        intro isDirectory
        split
        · trivial
        · split
          · trivial
          · exact (Client.asks_isDirectory trivial).bind fun _ => trivial

theorem asks_unmarked {directory : ObjectKey} (heads : ∀ key, kind (.head key)) :
    (unmarked directory).run.Asks kind := by
  induction directory using ObjectKey.upwards with
  | step directory induction =>
      rw [unmarked]
      split
      · trivial
      · apply (Client.asks_exists? (heads _)).bind
        intro stored
        split
        · trivial
        · split
          · trivial
          · next above parent => exact (induction above parent).bind fun _ => trivial

theorem asks_putMarkers {keys : List ObjectKey} (marks : ∀ key, kind (.putMarker key)) :
    (putMarkers keys).run.Asks kind := by
  induction keys with
  | nil => trivial
  | cons key keys induction => exact Asks.bind ⟨marks key, fun _ => trivial⟩ fun _ => induction

theorem asks_create {layout : Namespace} {key : ObjectKey} (heads : ∀ key, kind (.head key))
    (marks : ∀ key, kind (.putMarker key)) : (create layout key).run.Asks kind := by
  cases layout with
  | flat => trivial
  | hierarchical => exact (asks_unmarked heads).bind fun _ => asks_putMarkers marks

theorem asks_delete {key : ObjectKey} : (delete limit key).run.Asks Call.IsPlain := by
  rw [delete]
  split
  · trivial
  · apply Asks.bind
    · exact (asks_collectPages fun _ _ _ => trivial).bind fun _ => trivial
    · intro found
      rw [deleteKeys]
      split
      · trivial
      · exact ⟨trivial, fun _ => trivial⟩

end Depot.Directory

namespace Depot.Transfer

open Dialogue

variable {kind : Call → Prop} {chunkSize footerLength remaining : Nat} {source : IndexInput}
  {upload : Upload}

theorem asks_writeBody (writes : ∀ upload chunk, kind (.write upload chunk)) {reader : Reader}
    {register : UInt32} :
    (writeBody chunkSize reader register upload remaining).Asks kind := by
  induction remaining using Nat.strongRecOn generalizing reader register upload with
  | ind remaining induction =>
      rw [writeBody]
      split
      · trivial
      · simp only
        split
        · trivial
        · refine ⟨writes _ _, ?_⟩
          rintro ⟨written, upload⟩
          cases written with
          | error error => trivial
          | ok =>
              apply induction
              omega

theorem asks_writeFile (writes : ∀ upload chunk, kind (.write upload chunk)) :
    (writeFile chunkSize source footerLength upload).Asks kind := by
  apply (asks_writeBody writes).andThen
  rintro ⟨body, upload⟩
  cases body with
  | error error => trivial
  | ok body =>
      simp only
      split
      · trivial
      · split
        · trivial
        · exact ⟨writes _ _, fun _ => trivial⟩

theorem asks_intoStore {target : ObjectKey} :
    (intoStore chunkSize source footerLength target).run.Asks Call.IsPlain := by
  rw [intoStore]
  split
  · trivial
  · refine ⟨trivial, ?_⟩
    intro opened
    cases opened with
    | error error => trivial
    | ok upload =>
        apply (asks_writeFile fun _ _ => trivial).andThen
        rintro ⟨streamed, upload⟩
        cases streamed with
        | error error => exact ⟨trivial, fun _ => trivial⟩
        | ok size =>
            refine ⟨trivial, ?_⟩
            intro finished
            cases finished <;> trivial

theorem reads_outOfStore {key : ObjectKey} {destination : Destination} :
    (outOfStore chunkSize key destination).Asks Call.Reads := by
  refine ⟨trivial, ?_⟩
  intro opened
  cases opened <;> trivial

end Depot.Transfer

namespace Depot.Repository

open Dialogue

variable {Handle : Type} {repository : Repository Handle} {path : LogicalPath}

theorem asks_createParent {kind : Call → Prop} {layout : Namespace} {key : ObjectKey}
    (heads : ∀ key, kind (.head key)) (marks : ∀ key, kind (.putMarker key)) :
    (createParent layout key).run.Asks kind := by
  rw [createParent]
  split
  · trivial
  · exact Directory.asks_create heads marks

theorem surveys_exists? : (repository.exists? path).run.Asks Call.Surveys :=
  (Asks.liftExcept _).bind fun _ => Directory.surveys_pathExists

theorem asks_exists? : (repository.exists? path).run.Asks Call.Looks :=
  surveys_exists?.mono fun _ => Call.Surveys.looks

theorem surveys_listAll : (repository.listAll path).run.Asks Call.Surveys :=
  (Asks.liftExcept _).bind fun _ => Directory.surveys_children

theorem asks_listAll : (repository.listAll path).run.Asks Call.Looks :=
  surveys_listAll.mono fun _ => Call.Surveys.looks

theorem asks_pathType : (repository.pathType path).run.Asks Call.Looks :=
  (Asks.liftExcept _).bind fun _ => Directory.asks_classify

theorem asks_deleteDirectory : (repository.deleteDirectory path).run.Asks Call.IsPlain :=
  (Asks.liftExcept _).bind fun _ => Directory.asks_delete

theorem asks_openInput {file : String} : (repository.openInput path file).run.Asks Call.Looks := by
  apply (Asks.liftExcept _).bind
  intro _
  apply (Asks.liftExcept _).bind
  intro key
  apply (Asks.liftExcept _).bind
  intro _
  apply (Client.asks_headLength trivial).bind
  intro length
  exact ⟨trivial, fun opened => by cases opened <;> trivial⟩

theorem reads_copyIndexFileTo {sourceName directory targetName : String} {tree : Local.Tree} :
    (repository.copyIndexFileTo path sourceName tree directory targetName).Asks Call.Reads := by
  rw [copyIndexFileTo]
  split
  · trivial
  · apply (Client.asks_headLength trivial).andThen
    intro length
    cases length with
    | error error => trivial
    | ok length =>
        simp only
        split
        · trivial
        · exact Transfer.reads_outOfStore.andThen fun _ => trivial

theorem asks_copyIndexFileTo {sourceName directory targetName : String} {tree : Local.Tree} :
    (repository.copyIndexFileTo path sourceName tree directory targetName).Asks Call.Looks :=
  reads_copyIndexFileTo.mono fun _ => Call.Reads.looks

theorem asks_copyFileTo {file directory : String} {tree : Local.Tree} :
    (repository.copyFileTo path file tree directory).Asks Call.Looks := by
  rw [copyFileTo]
  split <;> exact asks_copyIndexFileTo

theorem asks_delete {files : List String} {ignoreMissing : Bool} :
    (repository.delete path files ignoreMissing).run.Asks Call.IsPlain := by
  apply (Asks.liftExcept _).bind
  intro keys
  split
  · trivial
  · apply (Asks.liftExcept _).bind
    intro _
    refine ⟨trivial, ?_⟩
    intro deleted
    simp only [done_andThen]
    split <;> trivial

theorem asks_writeChunks {kind : Call → Prop} (writes : ∀ upload chunk, kind (.write upload chunk))
    {upload : Upload} {chunks : List ByteArray} : (writeChunks upload chunks).Asks kind := by
  induction chunks generalizing upload with
  | nil => trivial
  | cons chunk chunks induction => exact ⟨writes _ _, fun _ => induction⟩

theorem asks_output {chunks : List ByteArray} {ending : Ending} :
    (repository.output path chunks ending).run.Asks Call.IsPlain := by
  apply Asks.bind
  · apply (Asks.liftExcept _).bind
    intro key
    exact (Asks.liftExcept _).bind fun _ => ⟨trivial, fun _ => trivial⟩
  · intro upload
    apply (Asks.lift (asks_writeChunks fun _ _ => trivial)).bind
    intro upload
    cases ending with
    | finish => exact ⟨trivial, fun _ => trivial⟩
    | abort => exact ⟨trivial, fun _ => trivial⟩
    | drop => trivial

end Depot.Repository
