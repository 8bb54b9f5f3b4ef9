import Depot.Backend
import Depot.Proofs.Attempts
import Depot.Proofs.Exchanges
import Depot.Proofs.Leftovers
import Depot.Proofs.Renderings

/-!
Two backends that see the same. A server that writes the pages of a store in memory as documents, and
tells of single objects what the store tells, cannot be told from that store by anything that only asks
about objects and for pages. So a listing over it has the same entries, a directory exists over it
under the same conditions, and what is deleted over it are the same keys.
-/

namespace Depot

open Dialogue

/-- The pages that have been handed out. -/
def StoreTranscript.pages (transcript : StoreTranscript) : List (Except RepoError ListingPage) :=
  transcript.filterMap fun asked =>
    match asked with
    | ⟨.listPage _ _ _, page⟩ => some page
    | _ => none

/-- Whether two transcripts have the same questions and the same pages. -/
structure StoreTranscript.SameEntries (left right : StoreTranscript) : Prop where
  questions : left.map Sigma.fst = right.map Sigma.fst
  pages : left.pages = right.pages

namespace StoreTranscript.SameEntries

variable {left right more also : StoreTranscript}

theorem refl (transcript : StoreTranscript) : transcript.SameEntries transcript := ⟨rfl, rfl⟩

theorem append (first : left.SameEntries right) (second : more.SameEntries also) :
    StoreTranscript.SameEntries (left ++ more) (right ++ also) where
  questions := by rw [List.map_append, List.map_append, first.questions, second.questions]
  pages := by
    have parted (front back : StoreTranscript) :
        StoreTranscript.pages (front ++ back) = front.pages ++ back.pages := List.filterMap_append
    rw [parted, parted, first.pages, second.pages]

end StoreTranscript.SameEntries

namespace S3

variable {World Result Next : Type} {client : Client}
  {serve : World → (asked : Exchange) → Exchange.Reply asked × World} {world : World}
  {store : Memory.Store}

/-- Whether a server stands for a store: a page of a listing is that of the store, written as a
document, and of an object it tells what the store tells. -/
structure Mirrors (client : Client)
    (serve : World → (asked : Exchange) → Exchange.Reply asked × World) (world : World)
    (store : Memory.Store) : Prop where
  lists : ∀ lead delimiter token, ∃ response parts,
    serve world ⟨client, Client.listingCommand lead delimiter token⟩ = (.ok response, world) ∧
      response.isSuccess = true ∧ response.text = Document.listing parts ∧
      Document.Renders parts (store.listPage lead delimiter token)
  finds : ∀ key object, store.find? key = some object → ∃ response,
    serve world ⟨client, Client.plain .head key.text⟩ = (.ok response, world) ∧
      response.isSuccess = true ∧
      Client.metaOf key response = ⟨key, object.data.size, object.isDirectory⟩
  misses : ∀ key, store.find? key = none → ∃ response,
    serve world ⟨client, Client.plain .head key.text⟩ = (.ok response, world) ∧
      response.status = 404

/-- A command that is answered comes to the check of its answer. -/
theorem run_send {operation subject : String} {command : Command} {response : Http.Response}
    (answered : serve world ⟨client, command⟩ = (.ok response, world)) :
    (client.send operation subject command).run.run serve world =
      (check operation subject response, world) := by
  rw [Client.send, run_bind]
  simp only [ExceptT.run_mk, ask_andThen, done_andThen]
  rw [run_ask, answered]
  dsimp only
  cases check operation subject response <;> rfl

/-- What is made of an answer is made of it if it is a success. -/
theorem run_send_map (operation subject : String) {command : Command} {response : Http.Response}
    (answered : serve world ⟨client, command⟩ = (.ok response, world))
    (change : Http.Response → Result) :
    (do return change (← client.send operation subject command) : Task Result).run.run serve world =
      ((check operation subject response).map change, world) := by
  rw [run_bind, run_andThen, run_send answered]
  cases check operation subject response <;> rfl

/-- A server that stands for a store answers as the store does. -/
theorem Mirrors.run_respond (mirrors : Mirrors client serve world store) {call : Call}
    (surveys : call.Surveys) :
    (client.respond call).run serve world = ((store.respond call).1, world) := by
  cases call with
  | head key =>
      cases found : store.find? key with
      | some object =>
          rcases mirrors.finds key object found with ⟨response, answered, success, told⟩
          have asked := run_send_map "HEAD" key.text answered (Client.metaOf key)
          rw [check_of_succeeds success, Except.map, told] at asked
          rw [Memory.Store.respond, Memory.Store.look, found]
          exact asked
      | none =>
          rcases mirrors.misses key found with ⟨response, answered, missing⟩
          have asked := run_send_map "HEAD" key.text answered (Client.metaOf key)
          have fails : check "HEAD" key.text response = .error (.notFound key.text) := by
            have noSuccess : response.isSuccess = false := by
              rw [Http.Response.isSuccess, missing]
              rfl
            rw [check, noSuccess, missing]
            rfl
          rw [fails] at asked
          rw [Memory.Store.respond, Memory.Store.look, found]
          exact asked
  | listPage lead delimiter token =>
      rcases mirrors.lists lead delimiter token with
        ⟨response, parts, answered, success, written, renders⟩
      have asked := run_send_map "LIST" lead answered fun response =>
        Document.readListing response.text
      rw [check_of_succeeds success, Except.map, written,
        Document.readListing_listing renders] at asked
      exact asked
  | _ => exact surveys.elim

/-! ## Dialogues -/

/-- What a dialogue hears and comes to over a backend, with commands answered by a server. -/
def view (serve : World → (asked : Exchange) → Exchange.Reply asked × World) (world : World)
    (backend : Backend) (dialogue : StoreDialogue Result) : StoreTranscript × Result :=
  (dialogue.transcript (Backend.answer serve) (backend, world),
    (dialogue.run (Backend.answer serve) (backend, world)).1)

theorem Mirrors.answer_eq (mirrors : Mirrors client serve world store) {call : Call}
    (surveys : call.Surveys) : ∃ reply,
    Backend.answer serve (.s3 client, world) call = (reply, (.s3 client, world)) ∧
      Backend.answer serve (.memory store, world) call = (reply, (.memory store, world)) := by
  refine ⟨(store.respond call).1, ?_, ?_⟩
  · rw [Backend.answer, Backend.respond, run_andThen, mirrors.run_respond surveys]
    rfl
  · have answered : store.respond call = ((store.respond call).1, store) :=
      Prod.ext rfl (Memory.Store.respond_of_looks surveys.looks)
    simp only [Backend.answer, Backend.respond]
    rw [answered]
    rfl

theorem Mirrors.alike (mirrors : Mirrors client serve world store)
    {dialogue : StoreDialogue Result} (asks : dialogue.Asks Call.Surveys) :
    dialogue.transcript (Backend.answer serve) (.s3 client, world) =
        dialogue.transcript (Backend.answer serve) (.memory store, world) ∧
      ∃ result, dialogue.run (Backend.answer serve) (.s3 client, world) =
          (result, (.s3 client, world)) ∧
        dialogue.run (Backend.answer serve) (.memory store, world) =
          (result, (.memory store, world)) :=
  asks.alike fun _ surveys => mirrors.answer_eq surveys

/-- What only asks about objects and for pages hears and comes to the same over both. -/
theorem Mirrors.view_eq (mirrors : Mirrors client serve world store)
    {dialogue : StoreDialogue Result} (asks : dialogue.Asks Call.Surveys) :
    view serve world (.s3 client) dialogue = view serve world (.memory store) dialogue := by
  rcases mirrors.alike asks with ⟨transcripts, result, overS3, inMemory⟩
  rw [view, view, transcripts, overS3, inMemory]

/-- What asks in the end for something else still asks for the same, and has seen the same pages. -/
theorem Mirrors.sameEntries_andThen (mirrors : Mirrors client serve world store)
    {first : StoreDialogue Result} {second : Result → StoreDialogue Next}
    (asks : first.Asks Call.Surveys)
    (ends : ∀ result (left right : Backend × World),
      StoreTranscript.SameEntries ((second result).transcript (Backend.answer serve) left)
        ((second result).transcript (Backend.answer serve) right)) :
    (view serve world (.s3 client) (first.andThen second)).1.SameEntries
      (view serve world (.memory store) (first.andThen second)).1 := by
  rcases mirrors.alike asks with ⟨transcripts, result, overS3, inMemory⟩
  rw [view, view, transcript_andThen, transcript_andThen, transcripts, overS3, inMemory]
  exact (StoreTranscript.SameEntries.refl _).append (ends _ _ _)

theorem sameEntries_deleteKeys {keys : List String} {left right : Backend × World} :
    StoreTranscript.SameEntries
      ((Directory.deleteKeys keys).run.transcript (Backend.answer serve) left)
      ((Directory.deleteKeys keys).run.transcript (Backend.answer serve) right) := by
  rw [Directory.deleteKeys]
  split
  · exact .refl _
  · exact ⟨rfl, rfl⟩

theorem Mirrors.sameEntries_delete (mirrors : Mirrors client serve world store) {limit : Nat}
    {key : ObjectKey} :
    (view serve world (.s3 client) (Directory.delete limit key).run).1.SameEntries
      (view serve world (.memory store) (Directory.delete limit key).run).1 := by
  rw [Directory.delete]
  split
  · exact .refl _
  · rw [run_bind]
    apply mirrors.sameEntries_andThen
    · exact (Directory.asks_collectPages fun _ _ _ => trivial).bind fun _ => trivial
    · intro found left right
      cases found with
      | error error => exact .refl _
      | ok keys => exact sameEntries_deleteKeys

/-- Every page can be written as a document, and is read from each such document as it is. So over a
server that stands for a store in memory, a listing and the question whether something exists go and
end as over that store, and a deletion sees the same pages and asks to delete the same keys. -/
theorem backends_see_same_entries :
    (∀ lead delimiter beside page,
      Document.Renders (Document.partsOf lead delimiter beside page) page) ∧
    (∀ parts page, Document.Renders parts page →
      Document.readListing (Document.listing parts) = page) ∧
    ∀ {World Handle : Type} {client : Client}
      {serve : World → (asked : Exchange) → Exchange.Reply asked × World} {world : World}
      {store : Memory.Store}, Mirrors client serve world store →
      ∀ (repository : Repository Handle) (path : LogicalPath),
        view serve world (.s3 client) (repository.listAll path).run =
            view serve world (.memory store) (repository.listAll path).run ∧
          view serve world (.s3 client) (repository.exists? path).run =
            view serve world (.memory store) (repository.exists? path).run ∧
          (view serve world (.s3 client) (repository.deleteDirectory path).run).1.SameEntries
            (view serve world (.memory store) (repository.deleteDirectory path).run).1 := by
  refine ⟨Document.renders_partsOf, fun _ _ renders => Document.readListing_listing renders, ?_⟩
  intro World Handle client serve world store mirrors repository path
  refine ⟨mirrors.view_eq Repository.surveys_listAll, mirrors.view_eq Repository.surveys_exists?, ?_⟩
  rw [Repository.deleteDirectory]
  cases repository.requireClient with
  | error error => exact .refl _
  | ok => exact mirrors.sameEntries_delete

/-! A server in front of a store whose keys look like tags and entities. It writes a size next to each
key. -/

private def threeBytes : Document.Foreign :=
  ⟨Markup.Tag.element ⟨"Size", by decide⟩ [.text "3"], by decide⟩

private def shelf : Memory.Store :=
  (Memory.Store.empty.put ⟨"a/<Key>&lt;"⟩ ⟨.mk #[1, 2, 3], false⟩).put ⟨"a/b/&amp;"⟩ ⟨.mk #[4], false⟩

private def shelfParts (lead : String) (delimiter token : Option String) : List Document.Part :=
  Document.partsOf lead delimiter threeBytes (shelf.listPage lead delimiter token)

private def shelfPage (lead : String) (delimiter token : Option String) : Http.Response :=
  ⟨200, [], (Document.listing (shelfParts lead delimiter token)).toUTF8⟩

private def shelfObject (object : Memory.StoredObject) : Http.Response where
  status := 200
  headers := [("content-length", toString object.data.size)]
  body := .empty

private def serveShelf (_ : Unit) (asked : Exchange) : Exchange.Reply asked × Unit :=
  match asked.command.method, asked.command.key with
  | .head, some key =>
      match shelf.find? ⟨key⟩ with
      | some object => (.ok (shelfObject object), ())
      | none => (.ok ⟨404, [], .empty⟩, ())
  | .get, none =>
      let lead := (asked.command.query.lookup "prefix").getD ""
      let delimiter := asked.command.query.lookup "delimiter"
      let token := asked.command.query.lookup "continuation-token"
      (.ok (shelfPage lead delimiter token), ())
  | _, _ => (.error (.transport "not served"), ())

private theorem text_toUTF8 (text : String) :
    Http.Response.text ⟨200, [], text.toUTF8⟩ = text := Utf8.decode_toUTF8 text

private def shelfClient : Client := ⟨"b", "r", none, "a", "s", none⟩

private theorem mirrors_shelf : Mirrors shelfClient serveShelf () shelf where
  lists lead delimiter token := by
    refine ⟨shelfPage lead delimiter token, shelfParts lead delimiter token, ?_, rfl,
      text_toUTF8 _, Document.renders_partsOf lead delimiter threeBytes _⟩
    cases delimiter <;> cases token <;> simp [serveShelf, Client.listingCommand, List.lookup_cons]
  finds key object found := by
    refine ⟨shelfObject object, ?_, rfl, ?_⟩
    · simp [serveShelf, Client.plain, found]
    · have among : object = ⟨.mk #[1, 2, 3], false⟩ ∨ object = ⟨.mk #[4], false⟩ := by
        rw [shelf, Memory.Store.find?_put, Memory.Store.find?_put] at found
        split at found
        next => exact .inr (Option.some.inj found).symm
        next =>
          split at found
          next => exact .inl (Option.some.inj found).symm
          next => cases found.symm.trans (SortedMap.find?_empty key.text)
      rcases among with rfl | rfl <;> rfl
  misses key found := by
    refine ⟨⟨404, [], .empty⟩, ?_, rfl⟩
    simp [serveShelf, Client.plain, found]

private def librarian : Repository Unit := ⟨.hierarchical, 4, 10, .empty, some ()⟩

theorem backends_see_same_entries_shelf :
    Document.readListing (Document.listing (shelfParts "a/" (some "/") none)) =
        shelf.listPage "a/" (some "/") none ∧
      (view serveShelf () (.s3 shelfClient) (librarian.listAll (.make .s3 none "/a/")).run).2 =
        .ok ["<Key>&lt;", "b/"] := by
  rcases backends_see_same_entries with ⟨writes, reads, sees⟩
  refine ⟨reads _ _ (writes "a/" (some "/") threeBytes _), ?_⟩
  rw [(sees mirrors_shelf librarian (.make .s3 none "/a/")).1]
  decide +kernel

end S3

end Depot
