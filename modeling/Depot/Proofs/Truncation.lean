import Mathlib.Data.List.Basic
import Depot.Repository
import Depot.Proofs.Exchanges

/-!
Listings that a store answers in pages. A response that says it is truncated should name where the
next page begins, and a listing goes on for as long as it does. Whether a response is truncated and
where the next page begins are read from two elements that know nothing of each other, and the listing
ends with the first response that lacks either. So a listing is complete unless its last response says
that it is truncated and does not say where to go on.
-/

namespace Depot.S3

open Dialogue

namespace Document

/-- Whether a response says that there is more to list. -/
def IsTruncated (text : String) : Prop := Markup.first? text "IsTruncated" = some "true"

instance (text : String) : Decidable (IsTruncated text) :=
  inferInstanceAs (Decidable (Markup.first? text "IsTruncated" = some "true"))

/-- Where a response says that the next page begins. -/
def token? (text : String) : Option String :=
  (Markup.first? text "NextContinuationToken").map Markup.unescape

variable {text next : String}

theorem continuation_readListing (text : String) :
    (readListing text).continuation = if IsTruncated text then token? text else none := rfl

theorem continuation_eq_none_iff :
    (readListing text).continuation = none ↔ (IsTruncated text → token? text = none) := by
  rw [continuation_readListing]
  by_cases truncated : IsTruncated text <;> simp [truncated]

theorem continuation_eq_some_iff :
    (readListing text).continuation = some next ↔
      IsTruncated text ∧ token? text = some next := by
  rw [continuation_readListing]
  by_cases truncated : IsTruncated text <;> simp [truncated]

end Document

namespace Client

variable {client : Client} {lead : String} {delimiter token : Option String}
  {exchanges : Exchanges} {texts : List String}

/-- The exchanges of a listing that was read to its end, and the texts of the responses. Every
response but the last is truncated and says where the next page begins, and the next command asks for
the page there. -/
inductive Lists (client : Client) (lead : String) (delimiter : Option String) :
    Option String → Exchanges → List String → Prop
  | last {token : Option String} {response : Http.Response} (success : response.isSuccess = true)
      (ends : Document.IsTruncated response.text → Document.token? response.text = none) :
      Lists client lead delimiter token
        [⟨⟨client, listingCommand lead delimiter token⟩, .ok response⟩] [response.text]
  | more {token : Option String} {next : String} {response : Http.Response}
      {exchanges : Exchanges} {texts : List String} (success : response.isSuccess = true)
      (truncated : Document.IsTruncated response.text)
      (goesOn : Document.token? response.text = some next)
      (others : Lists client lead delimiter (some next) exchanges texts) :
      Lists client lead delimiter token
        (⟨⟨client, listingCommand lead delimiter token⟩, .ok response⟩ :: exchanges)
        (response.text :: texts)

namespace Lists

theorem ne_nil (lists : client.Lists lead delimiter token exchanges texts) : texts ≠ [] := by
  cases lists <;> exact List.cons_ne_nil _ _

/-- Only the last response may be one that is not truncated, or that does not say where to go on. -/
theorem exists_last (lists : client.Lists lead delimiter token exchanges texts) :
    ∃ earlier last, texts = earlier ++ [last] ∧
      (∀ text ∈ earlier, Document.IsTruncated text ∧ Document.token? text ≠ none) ∧
      (Document.IsTruncated last → Document.token? last = none) := by
  induction lists with
  | last success ends => exact ⟨[], _, rfl, by simp, ends⟩
  | more success truncated goesOn others induction =>
      rcases induction with ⟨earlier, last, rfl, goOn, ends⟩
      refine ⟨_ :: earlier, last, rfl, List.forall_mem_cons.mpr ⟨⟨truncated, ?_⟩, goOn⟩, ends⟩
      simp [goesOn]

end Lists

/-- A command that is answered by a success ends with the response. -/
theorem goes_send_of_success {operation subject : String} {command : Command}
    {response : Http.Response} (success : response.isSuccess = true) :
    (client.send operation subject command).run.Goes [⟨⟨client, command⟩, .ok response⟩]
      (.ok response) := by
  have checked : check operation subject response = .ok response := check_of_succeeds success
  exact goes_send_iff.mpr ⟨.ok response, rfl, checked.symm⟩

theorem goes_listPage_ok_iff {page : ListingPage} :
    (client.listPage lead delimiter token).run.Goes exchanges (.ok page) ↔
      ∃ response, response.isSuccess = true ∧
        exchanges = [⟨⟨client, listingCommand lead delimiter token⟩, .ok response⟩] ∧
        page = Document.readListing response.text := by
  rw [listPage, Goes.bind_iff]
  constructor
  · intro given
    rcases given with ⟨_, _, impossible⟩ | ⟨response, early, late, rfl, sending, ended⟩
    · cases impossible
    rcases goes_send_iff.mp sending with ⟨reply, rfl, checked⟩
    rcases succeeds_of_check checked.symm with ⟨rfl, success⟩
    rcases Goes.pure_iff.mp ended with ⟨same, rfl⟩
    cases same
    exact ⟨response, success, rfl, rfl⟩
  · intro given
    rcases given with ⟨response, success, rfl, rfl⟩
    exact .inr ⟨response, _, [], (List.append_nil _).symm, goes_send_of_success success,
      Goes.pure_iff.mpr ⟨rfl, rfl⟩⟩

/-- Pages are collected exactly from a listing that was read to its end, if it has no more pages than
may come. -/
theorem relays_collectPages_ok_iff {limit left : Nat} {pages : List ListingPage} :
    client.Relays (Directory.collectPages lead delimiter limit left token).run exchanges
        (.ok pages) ↔
      ∃ texts, client.Lists lead delimiter token exchanges texts ∧ texts.length ≤ left ∧
        pages = texts.map Document.readListing := by
  induction left generalizing token exchanges pages with
  | zero =>
      constructor
      · intro given
        cases (Relays.done_iff.mp given).1
      · intro given
        rcases given with ⟨texts, lists, few, -⟩
        exact absurd (List.length_eq_zero_iff.mp (Nat.le_zero.mp few)) lists.ne_nil
  | succ left induction =>
      rw [Directory.collectPages, Relays.bind_ok_iff]
      constructor
      · intro given
        rcases given with ⟨page, early, late, rfl, asking, rest⟩
        rcases goes_listPage_ok_iff.mp (Relays.question_iff.mp asking) with
          ⟨response, success, rfl, rfl⟩
        split at rest
        next ends =>
          rcases Relays.pure_ok_iff.mp rest with ⟨rfl, rfl⟩
          refine ⟨[response.text], .last success ?_, by simp, rfl⟩
          exact Document.continuation_eq_none_iff.mp ends
        next next goesOn =>
          rcases Document.continuation_eq_some_iff.mp goesOn with ⟨truncated, isToken⟩
          rcases Relays.bind_pure_ok_iff.mp rest with ⟨others, collecting, rfl⟩
          rcases induction.mp collecting with ⟨texts, lists, few, rfl⟩
          exact ⟨response.text :: texts, .more success truncated isToken lists,
            Nat.succ_le_succ few, rfl⟩
      · intro given
        rcases given with ⟨texts, lists, few, rfl⟩
        cases lists with
        | last success ends =>
            refine ⟨_, _, [], (List.append_nil _).symm, Relays.question_iff.mpr
              (goes_listPage_ok_iff.mpr ⟨_, success, rfl, rfl⟩), ?_⟩
            rw [Document.continuation_eq_none_iff.mpr ends]
            exact Relays.pure_ok_iff.mpr ⟨rfl, rfl⟩
        | more success truncated goesOn others =>
            refine ⟨_, [_], _, rfl, Relays.question_iff.mpr
              (goes_listPage_ok_iff.mpr ⟨_, success, rfl, rfl⟩), ?_⟩
            rw [Document.continuation_eq_some_iff.mpr ⟨truncated, goesOn⟩]
            exact Relays.bind_pure_ok_iff.mpr
              ⟨_, induction.mpr ⟨_, others, Nat.le_of_succ_le_succ few, rfl⟩, rfl⟩

/-! ## What is made of a listing -/

theorem relays_children_ok_iff {limit : Nat} {key : ObjectKey} {names : List String} :
    let lead := key.trimDirectory.asDirectory.text
    client.Relays (Directory.children limit key).run exchanges (.ok names) ↔
      ∃ texts, client.Lists lead (some Directory.delimiterText) none exchanges texts ∧
        texts.length ≤ limit ∧
        names = sortedDistinct (((texts.map Document.readListing).flatMap
          ListingPage.entries).filterMap (Directory.child? lead)) := by
  intro lead
  rw [Directory.children, Relays.bind_pure_ok_iff]
  simp only [relays_collectPages_ok_iff]
  constructor
  · intro given
    rcases given with ⟨_, ⟨texts, lists, few, rfl⟩, rfl⟩
    exact ⟨texts, lists, few, rfl⟩
  · intro given
    rcases given with ⟨texts, lists, few, rfl⟩
    exact ⟨_, ⟨texts, lists, few, rfl⟩, rfl⟩

/-- A directory is deleted by reading a listing to its end and deleting what was listed. -/
theorem relays_delete_ok_iff {limit : Nat} {key : ObjectKey} :
    let lead := key.trimDirectory.asDirectory.text
    client.Relays (Directory.delete limit key).run exchanges (.ok ()) ↔
      key.isRoot = false ∧ ∃ texts listing deletion, exchanges = listing ++ deletion ∧
        client.Lists lead none none listing texts ∧ texts.length ≤ limit ∧
        client.Relays (Directory.deleteKeys (((texts.map Document.readListing).flatMap
          ListingPage.keys).filter fun found =>
            Text.startsWith lead.toList found.toList)).run deletion (.ok ()) := by
  intro lead
  cases isRoot : key.isRoot with
  | true =>
      rw [Directory.delete, if_pos isRoot]
      constructor
      · intro given
        cases (Relays.done_iff.mp given).1
      · simp
  | false =>
      rw [Directory.delete, if_neg (by simp [isRoot]), Relays.bind_ok_iff]
      simp only [Directory.keysBelow, Relays.bind_pure_ok_iff, relays_collectPages_ok_iff]
      constructor
      · intro given
        rcases given with ⟨_, listing, deletion, rfl, ⟨_, ⟨texts, lists, few, rfl⟩, rfl⟩, deleting⟩
        exact ⟨trivial, texts, listing, deletion, rfl, lists, few, deleting⟩
      · intro given
        rcases given with ⟨-, texts, listing, deletion, rfl, lists, few, deleting⟩
        exact ⟨_, listing, deletion, rfl, ⟨_, ⟨texts, lists, few, rfl⟩, rfl⟩, deleting⟩

end Client

end Depot.S3

namespace Depot.Repository

open S3 Dialogue

variable {Handle : Type} {repository : Repository Handle} {path : LogicalPath} {client : Client}
  {exchanges : Exchanges}

theorem relays_requireClient_iff {Result : Type} {task : StoreTask Result} {result : Result} :
    client.Relays (liftM repository.requireClient >>= fun () => task).run exchanges (.ok result) ↔
      repository.client.isSome = true ∧ client.Relays task.run exchanges (.ok result) := by
  rw [Client.Relays.bindExcept_iff, requireClient]
  cases repository.client <;> simp

theorem relays_listAll_ok_iff {names : List String} :
    let lead := (Namespace.objectKey path).trimDirectory.asDirectory.text
    client.Relays (repository.listAll path).run exchanges (.ok names) ↔
      repository.client.isSome = true ∧
        ∃ texts, client.Lists lead (some Directory.delimiterText) none exchanges texts ∧
          texts.length ≤ repository.pageLimit ∧
          names = sortedDistinct (((texts.map Document.readListing).flatMap
            ListingPage.entries).filterMap (Directory.child? lead)) := by
  rw [listAll, relays_requireClient_iff]
  exact and_congr_right fun _ => Client.relays_children_ok_iff

theorem relays_deleteDirectory_ok_iff :
    let key := repository.layout.directoryKey path
    let lead := key.trimDirectory.asDirectory.text
    client.Relays (repository.deleteDirectory path).run exchanges (.ok ()) ↔
      repository.client.isSome = true ∧ key.isRoot = false ∧
        ∃ texts listing deletion, exchanges = listing ++ deletion ∧
          client.Lists lead none none listing texts ∧ texts.length ≤ repository.pageLimit ∧
          client.Relays (Directory.deleteKeys (((texts.map Document.readListing).flatMap
            ListingPage.keys).filter fun found =>
              Text.startsWith lead.toList found.toList)).run deletion (.ok ()) := by
  rw [deleteDirectory, relays_requireClient_iff]
  exact and_congr_right fun _ => Client.relays_delete_ok_iff

/-- Collecting pages, listing a directory and deleting one succeed exactly on listings that were read
to their end, and take from them what all their responses hold. Every response of such a listing but
the last is truncated, and the next command goes on where it says. The last response is not truncated,
or it says that it is truncated but not where to go on; this one is taken for the end as well. -/
theorem listing_succeeds_iff_read (client : Client) :
    (∀ lead delimiter limit left token exchanges pages,
      client.Relays (Directory.collectPages lead delimiter limit left token).run exchanges
          (.ok pages) ↔
        ∃ texts, client.Lists lead delimiter token exchanges texts ∧ texts.length ≤ left ∧
          pages = texts.map Document.readListing) ∧
    (∀ {Handle : Type} (repository : Repository Handle) (path : LogicalPath) exchanges names,
      let lead := (Namespace.objectKey path).trimDirectory.asDirectory.text
      client.Relays (repository.listAll path).run exchanges (.ok names) ↔
        repository.client.isSome = true ∧
          ∃ texts, client.Lists lead (some Directory.delimiterText) none exchanges texts ∧
            texts.length ≤ repository.pageLimit ∧
            names = sortedDistinct (((texts.map Document.readListing).flatMap
              ListingPage.entries).filterMap (Directory.child? lead))) ∧
    (∀ {Handle : Type} (repository : Repository Handle) (path : LogicalPath) exchanges,
      let key := repository.layout.directoryKey path
      let lead := key.trimDirectory.asDirectory.text
      client.Relays (repository.deleteDirectory path).run exchanges (.ok ()) ↔
        repository.client.isSome = true ∧ key.isRoot = false ∧
          ∃ texts listing deletion, exchanges = listing ++ deletion ∧
            client.Lists lead none none listing texts ∧ texts.length ≤ repository.pageLimit ∧
            client.Relays (Directory.deleteKeys (((texts.map Document.readListing).flatMap
              ListingPage.keys).filter fun found =>
                Text.startsWith lead.toList found.toList)).run deletion (.ok ())) ∧
    ∀ lead delimiter token exchanges texts,
      client.Lists lead delimiter token exchanges texts →
        ∃ earlier last, texts = earlier ++ [last] ∧
          (∀ text ∈ earlier, Document.IsTruncated text ∧ Document.token? text ≠ none) ∧
          (Document.IsTruncated last → Document.token? last = none) := by
  refine ⟨?collected, ?listed, ?deleted, ?ended⟩
  case collected =>
    intro lead delimiter limit left token exchanges pages
    exact Client.relays_collectPages_ok_iff
  case listed =>
    intro Handle repository path exchanges names
    exact relays_listAll_ok_iff
  case deleted =>
    intro Handle repository path exchanges
    exact relays_deleteDirectory_ok_iff
  case ended =>
    intro lead delimiter token exchanges texts lists
    exact lists.exists_last

/-! A directory that is listed on two pages, and one whose only page says that there is more but not
where. -/

private def reader : Client := ⟨"bucket", "us-east-1", none, "AK", "SK", none⟩

private def catalog : Repository Unit := ⟨.hierarchical, 4, 10, .empty, some ()⟩

private def folder : LogicalPath := .make .s3 none "/a/"

private def told (body : String) : Http.Response := ⟨200, [], body.toUTF8⟩

private def firstOfTwo : Http.Response :=
  told ("<Contents><Key>a/f</Key></Contents><IsTruncated>true</IsTruncated>" ++
    "<NextContinuationToken>t</NextContinuationToken>")

private def secondOfTwo : Http.Response :=
  told "<Contents><Key>a/g</Key></Contents><IsTruncated>false</IsTruncated>"

private def tokenless : Http.Response :=
  told "<Contents><Key>a/f</Key></Contents><IsTruncated>true</IsTruncated>"

theorem listing_succeeds_iff_read_two_pages :
    reader.Relays (catalog.listAll folder).run
        [⟨⟨reader, Client.listingCommand "a/" (some "/") none⟩, .ok firstOfTwo⟩,
          ⟨⟨reader, Client.listingCommand "a/" (some "/") (some "t")⟩, .ok secondOfTwo⟩]
        (.ok ["f", "g"]) ∧
      ∃ earlier last, [firstOfTwo.text, secondOfTwo.text] = earlier ++ [last] ∧
        (∀ text ∈ earlier, Document.IsTruncated text ∧ Document.token? text ≠ none) ∧
        (Document.IsTruncated last → Document.token? last = none) := by
  have lists : reader.Lists "a/" (some "/") none
      [⟨⟨reader, Client.listingCommand "a/" (some "/") none⟩, .ok firstOfTwo⟩,
        ⟨⟨reader, Client.listingCommand "a/" (some "/") (some "t")⟩, .ok secondOfTwo⟩]
      [firstOfTwo.text, secondOfTwo.text] := by
    refine .more rfl (by decide +kernel) (by decide +kernel) (.last rfl ?_)
    intro truncated
    exact absurd truncated (by decide +kernel)
  rcases listing_succeeds_iff_read reader with ⟨-, listed, -, ended⟩
  have isLead : (Namespace.objectKey folder).trimDirectory.asDirectory.text = "a/" := by
    decide +kernel
  refine ⟨(listed catalog folder _ _).mpr
    ⟨rfl, [firstOfTwo.text, secondOfTwo.text], ?_, ?_, ?_⟩, ended _ _ _ _ _ lists⟩
  · rw [isLead]
    exact lists
  · decide
  · rw [isLead]
    decide +kernel

private theorem lists_tokenless (delimiter : Option String) :
    reader.Lists "a/" delimiter none
      [⟨⟨reader, Client.listingCommand "a/" delimiter none⟩, .ok tokenless⟩] [tokenless.text] := by
  refine .last rfl ?_
  intro _
  decide +kernel

private theorem goes_deletion :
    (reader.deleteMany (KeySet.ofKeys [⟨"a/f"⟩])).run.Goes
      [⟨⟨reader, Client.deletionCommand [⟨"a/f"⟩]⟩, .ok (told "")⟩] (.ok ()) := by
  have oneBatch : Client.batches Client.batchSize (KeySet.ofKeys [⟨"a/f"⟩]).toKeys =
      [[⟨"a/f"⟩]] := by
    decide +kernel
  have noFailure : Client.missingKeys (Document.readFailures (told "").text) = .ok [] := by
    decide +kernel
  have deleted : (reader.deleteBatches [[⟨"a/f"⟩]]).run.Goes
      [⟨⟨reader, Client.deletionCommand [⟨"a/f"⟩]⟩, .ok (told "")⟩] (.ok []) := by
    refine Goes.bind_iff.mpr (.inr ⟨told "", _, [], (List.append_nil _).symm,
      Client.goes_send_of_success rfl, ?_⟩)
    refine Goes.bindExcept_iff.mpr (.inr ⟨[], noFailure, ?_⟩)
    exact Goes.bind_iff.mpr (.inr ⟨[], [], [], rfl, Goes.pure_iff.mpr ⟨rfl, rfl⟩,
      Goes.pure_iff.mpr ⟨rfl, rfl⟩⟩)
  rw [S3.Client.deleteMany, oneBatch]
  exact Goes.bind_iff.mpr (.inr ⟨_, _, [], (List.append_nil _).symm, deleted,
    Goes.pure_iff.mpr ⟨rfl, rfl⟩⟩)

/-- A response that says that there is more, but not where, is taken for a whole listing: the
directory lists the one file that it names, and deleting the directory deletes that file only. -/
theorem tokenless_listing_taken_for_whole :
    Document.IsTruncated tokenless.text ∧
      reader.Relays (catalog.listAll folder).run
        [⟨⟨reader, Client.listingCommand "a/" (some "/") none⟩, .ok tokenless⟩] (.ok ["f"]) ∧
      reader.Relays (catalog.deleteDirectory folder).run
        [⟨⟨reader, Client.listingCommand "a/" none none⟩, .ok tokenless⟩,
          ⟨⟨reader, Client.deletionCommand [⟨"a/f"⟩]⟩, .ok (told "")⟩] (.ok ()) := by
  have isLead : (Namespace.objectKey folder).trimDirectory.asDirectory.text = "a/" := by
    decide +kernel
  have isKey : catalog.layout.directoryKey folder = Namespace.objectKey folder := by
    decide +kernel
  have truncated : Document.IsTruncated tokenless.text := by decide +kernel
  refine ⟨truncated, relays_listAll_ok_iff.mpr ⟨rfl, [tokenless.text], ?_, ?_, ?_⟩,
    relays_deleteDirectory_ok_iff.mpr ⟨rfl, by decide +kernel, [tokenless.text],
      [⟨⟨reader, Client.listingCommand "a/" none none⟩, .ok tokenless⟩], _, rfl, ?_, ?_, ?_⟩⟩
  · rw [isLead]
    exact lists_tokenless _
  · decide
  · rw [isLead]
    decide +kernel
  · rw [isKey, isLead]
    exact lists_tokenless _
  · decide
  · have isListed : (([tokenless.text].map Document.readListing).flatMap
        ListingPage.keys).filter (fun found => Text.startsWith "a/".toList found.toList) =
          ["a/f"] := by
      decide +kernel
    rw [isKey, isLead, isListed]
    exact Client.Relays.question_iff.mpr goes_deletion

end Depot.Repository
