import Depot.Proofs.Pagination
import Depot.Proofs.Runs

/-!
Listings of a store that others write to. Between the requests for two pages anything may be stored
and anything deleted. What a continuation leaves behind it is told from the texts of the keys alone,
whatever is stored, so no page repeats what an earlier page has shown, and a key that is stored all
the time is either shown on a page or lies behind its continuation.
-/

namespace Depot.Memory

/-- Something that another client does to the store. -/
inductive Write where
  | put (key : ObjectKey) (object : StoredObject)
  | erase (key : ObjectKey)

namespace Store

def write (store : Store) : Write → Store
  | .put key object => store.put key object
  | .erase key => store.erase key

def writeAll (store : Store) (writes : List Write) : Store := writes.foldl write store

@[simp] theorem loose_writeAll (store : Store) (writes : List Write) :
    (store.writeAll writes).loose = store.loose := by
  induction writes generalizing store with
  | nil => rfl
  | cons first writes induction =>
      rw [writeAll, List.foldl_cons, ← writeAll, induction]
      cases first <;> rfl

end Store

/-- A store that others write to, and the stores that the calls so far have found. -/
structure Busy where
  store : Store
  found : List Store

/-- What can happen at a call: others write, and then the store serves the call. -/
inductive AmidWrites : Busy → (call : Call) → Call.Reply call → Busy → Prop
  | served (busy : Busy) (writes : List Write) (call : Call) :
      AmidWrites busy call ((busy.store.writeAll writes).respond call).1
        { store := ((busy.store.writeAll writes).respond call).2
          found := busy.found ++ [busy.store.writeAll writes] }

/-- Whether an entry of a listing reports a key: itself, or by its roll-up. -/
def Entry.Reports (lead : String) (delimiter : Option String) (key : String) : Entry → Prop
  | .key text => text = key ∧ ∀ rolled, ¬RollsUp lead delimiter key rolled
  | .rolledUp text => RollsUp lead delimiter key text

/-- Whether a page shows some entries, in their order. -/
def Shows (page : ListingPage) (entries : List Entry) : Prop :=
  page.keys = entries.filterMap Entry.key? ∧ page.commonLeads = entries.filterMap Entry.rolledUp?

variable {lead key : String} {delimiter token : Option String}

theorem Entry.reports_iff {entry : Entry} :
    entry.Reports lead delimiter key ↔ Entry.ofKey lead delimiter key = entry := by
  cases entry with
  | key text => exact ofKey_eq_key_iff.symm
  | rolledUp text => exact ofKey_eq_rolledUp_iff.symm

/-! ## One page -/

namespace Store

variable {store : Store}

theorem shows_listPage (store : Store) (lead : String) (delimiter token : Option String) :
    Shows (store.listPage lead delimiter token)
      ((store.entriesBehind lead delimiter token).take store.pageSize) :=
  ⟨rfl, rfl⟩

/-- The entries of a page do not lie behind its continuation. -/
theorem text_le_of_mem_page {next : String} {entry : Entry}
    (continues : CanContinue lead delimiter (some next))
    (rest : store.entriesBehind lead delimiter (some next) =
      (store.entriesBehind lead delimiter token).drop store.pageSize)
    (member : entry ∈ (store.entriesBehind lead delimiter token).take store.pageSize) :
    entry.text ≤ next := by
  -- An entry behind the continuation would come again on the next page, but no entry comes twice.
  apply le_of_not_gt
  intro after
  rcases mem_entriesBehind.mp (List.mem_of_mem_take member) with ⟨key, stored, shown, -, rfl⟩
  have later := mem_entriesBehind.mpr
    ⟨key, stored, shown, (isBehind_some_iff continues).mpr after, rfl⟩
  rw [rest] at later
  have increasing := entriesBehind_increasing store lead delimiter token
  rw [← List.take_append_drop store.pageSize (store.entriesBehind lead delimiter token),
    List.pairwise_append] at increasing
  exact lt_irrefl _ (increasing.2.2 _ member _ later)

end Store

/-! ## All pages -/

/-- What the pages of a listing behind a continuation report: entries in strict order, each for an
object that was stored when its page was asked for, and an entry for each matching object that was
stored at all these times. -/
structure Reported (lead : String) (delimiter token : Option String) (moments : List Store)
    (shown : List (List Entry)) : Prop where
  increasing : shown.flatten.Pairwise Entry.Before
  behind : ∀ text, token = some text → ∀ entry ∈ shown.flatten, text < entry.text
  backed : List.Forall₂ (fun moment entries => ∀ entry ∈ entries,
    ∃ key ∈ moment.keys, moment.Matches lead key ∧ entry.Reports lead delimiter key) moments shown
  complete : ∀ key, (∀ moment ∈ moments, key ∈ moment.keys ∧ moment.Matches lead key) →
    Store.isBehind lead delimiter token key = true →
    ∃ entry ∈ shown.flatten, entry.Reports lead delimiter key

namespace Reported

variable {moment : Store} {moments : List Store} {shown : List (List Entry)}

theorem backed_entriesBehind {entry : Entry}
    (member : entry ∈ moment.entriesBehind lead delimiter token) :
    ∃ key ∈ moment.keys, moment.Matches lead key ∧ entry.Reports lead delimiter key := by
  rcases Store.mem_entriesBehind.mp member with ⟨key, stored, shown, -, found⟩
  exact ⟨key, stored, Store.startsWith_iff_matches.mp shown, Entry.reports_iff.mpr found⟩

theorem mem_entriesBehind_of_matches (stored : key ∈ moment.keys)
    (isShown : moment.Matches lead key)
    (isBehind : Store.isBehind lead delimiter token key = true) :
    Entry.ofKey lead delimiter key ∈ moment.entriesBehind lead delimiter token :=
  Store.mem_entriesBehind.mpr
    ⟨key, stored, Store.startsWith_iff_matches.mpr isShown, isBehind, rfl⟩

/-- A page that is the last reports everything behind the continuation it was asked for with. -/
theorem last (continues : Store.CanContinue lead delimiter token) :
    Reported lead delimiter token [moment] [moment.entriesBehind lead delimiter token] where
  increasing := by simpa using Store.entriesBehind_increasing moment lead delimiter token
  behind := by
    rintro text rfl entry member
    rw [List.flatten_singleton] at member
    exact Store.text_lt_of_mem_entriesBehind continues member
  backed := .cons (fun _ => backed_entriesBehind) .nil
  complete := by
    intro key present isBehind
    rcases present moment List.mem_cons_self with ⟨stored, isShown⟩
    refine ⟨_, ?_, Entry.reports_iff.mpr rfl⟩
    rw [List.flatten_singleton]
    exact mem_entriesBehind_of_matches stored isShown isBehind

/-- A page with a continuation in front of what is reported behind that. -/
theorem more {next : String} (continues : Store.CanContinue lead delimiter token)
    (nextContinues : Store.CanContinue lead delimiter (some next))
    (isMore : moment.pageSize < (moment.entriesBehind lead delimiter token).length)
    (rest : moment.entriesBehind lead delimiter (some next) =
      (moment.entriesBehind lead delimiter token).drop moment.pageSize)
    (later : Reported lead delimiter (some next) moments shown) :
    Reported lead delimiter token (moment :: moments)
      ((moment.entriesBehind lead delimiter token).take moment.pageSize :: shown) where
  increasing := by
    rw [List.flatten_cons, List.pairwise_append]
    refine ⟨?_, later.increasing, ?_⟩
    · exact (Store.entriesBehind_increasing moment lead delimiter token).take
    · intro entry member behind isBehind
      exact lt_of_le_of_lt (Store.text_le_of_mem_page nextContinues rest member)
        (later.behind next rfl behind isBehind)
  behind := by
    rintro text rfl entry member
    rw [List.flatten_cons, List.mem_append] at member
    rcases member with here | there
    · exact Store.text_lt_of_mem_entriesBehind continues (List.mem_of_mem_take here)
    · -- The page has an entry, which lies between the two continuations.
      have something : 0 <
          ((moment.entriesBehind lead delimiter (some text)).take moment.pageSize).length := by
        have positive := moment.pageSize_pos
        rw [List.length_take]
        omega
      rcases List.exists_mem_of_length_pos something with ⟨onPage, among⟩
      have after := Store.text_lt_of_mem_entriesBehind continues (List.mem_of_mem_take among)
      have before := Store.text_le_of_mem_page nextContinues rest among
      exact lt_trans (lt_of_lt_of_le after before) (later.behind next rfl entry there)
  backed := .cons (fun _ member => backed_entriesBehind (List.mem_of_mem_take member)) later.backed
  complete := by
    intro key present isBehind
    rcases present moment List.mem_cons_self with ⟨stored, isShown⟩
    have member := mem_entriesBehind_of_matches stored isShown isBehind
    rw [← List.take_append_drop moment.pageSize (moment.entriesBehind lead delimiter token),
      List.mem_append] at member
    rcases member with onPage | left
    · exact ⟨_, List.mem_append_left _ onPage, Entry.reports_iff.mpr rfl⟩
    · rw [← rest] at left
      have after := Store.text_lt_of_mem_entriesBehind nextContinues left
      have still := fun other among => present other (List.mem_cons_of_mem moment among)
      rcases later.complete key still ((Store.isBehind_some_iff nextContinues).mpr after) with
        ⟨entry, among, reports⟩
      exact ⟨entry, List.mem_append_right _ among, reports⟩

end Reported

end Depot.Memory

namespace Depot.Directory

open Memory Dialogue

variable {lead : String} {delimiter token : Option String} {limit left : Nat}
  {before after : Busy} {pages : List ListingPage}

theorem run_listPage {result : Except RepoError ListingPage}
    (run : Run AmidWrites (Client.listPage lead delimiter token).run before result after) :
    ∃ moment : Store, moment.loose = before.store.loose ∧
      result = .ok (moment.listPage lead delimiter token) ∧
      after = ⟨moment, before.found ++ [moment]⟩ := by
  cases Run.question_iff.mp run with
  | served writes => exact ⟨_, Store.loose_writeAll _ writes, rfl, rfl⟩

/-- What a listing reports amid writes, from a continuation on. -/
theorem run_collectPages (continues : Store.CanContinue lead delimiter token)
    (run : Run AmidWrites (collectPages lead delimiter limit left token).run before (.ok pages)
      after) :
    ∃ moments shown, after.found = before.found ++ moments ∧
      (∀ moment ∈ moments, moment.loose = before.store.loose) ∧
      List.Forall₂ Shows pages shown ∧ Reported lead delimiter token moments shown := by
  induction left generalizing token before pages with
  | zero => cases (Run.throw_iff.mp run).1
  | succ left induction =>
      rcases Run.bind_iff.mp run with ⟨error, -, same⟩ | ⟨page, middle, asked, rest⟩
      · cases same
      rcases run_listPage asked with ⟨moment, sameFilter, isPage, rfl⟩
      cases isPage
      rcases moment.listPage_cases continues with
        ⟨ends, fits⟩ | ⟨next, goesOn, nextContinues, isMore, behind⟩
      · rw [ends] at rest
        rcases Run.pure_iff.mp rest with ⟨same, rfl⟩
        cases same
        refine ⟨[moment], [moment.entriesBehind lead delimiter token], rfl, ?_, ?_,
          .last continues⟩
        · simpa using sameFilter
        · have shows := moment.shows_listPage lead delimiter token
          rw [List.take_of_length_le fits] at shows
          exact .cons shows .nil
      · rw [goesOn] at rest
        rcases Run.bind_iff.mp rest with ⟨error, -, same⟩ | ⟨others, last, collected, rest⟩
        · cases same
        rcases Run.pure_iff.mp rest with ⟨same, rfl⟩
        cases same
        rcases induction nextContinues collected with
          ⟨moments, shown, found, sameLater, shows, later⟩
        refine ⟨moment :: moments, _, ?_, ?_,
          .cons (moment.shows_listPage lead delimiter token) shows,
          later.more continues nextContinues isMore behind⟩
        · rw [found, List.append_assoc, List.singleton_append]
        · rw [List.forall_mem_cons]
          exact ⟨sameFilter, fun other among => (sameLater other among).trans sameFilter⟩

/-- A listing amid writes that comes to its last page reports entries in strict order, none twice;
each stands for an object that was stored when its page was asked for, and every matching object
that was stored whenever a page was asked for is reported. -/
theorem collectPages_amid_writes {store : Store}
    (run : Run AmidWrites (collectPages lead delimiter limit limit none).run ⟨store, []⟩ (.ok pages)
      after) :
    ∃ shown : List (List Entry),
      List.Forall₂ Shows pages shown ∧
      shown.flatten.Pairwise (fun first second => first.text < second.text) ∧
      List.Forall₂ (fun (moment : Store) entries => ∀ entry ∈ entries, ∃ key ∈ moment.keys,
        moment.Matches lead key ∧ entry.Reports lead delimiter key) after.found shown ∧
      ∀ key, store.Matches lead key → (∀ moment ∈ after.found, key ∈ moment.keys) →
        ∃ entry ∈ shown.flatten, entry.Reports lead delimiter key := by
  have begins : Store.CanContinue lead delimiter none := trivial
  rcases run_collectPages begins run with ⟨moments, shown, found, sameFilter, shows, reported⟩
  have isFound : after.found = moments := found
  rw [isFound]
  refine ⟨shown, shows, reported.increasing, reported.backed, ?_⟩
  intro key isMatch present
  apply reported.complete key _ rfl
  intro moment among
  refine ⟨present moment among, ?_⟩
  rw [Store.Matches, Store.filterLead, sameFilter moment among]
  exact isMatch

/-! A listing on pages of one entry. After the first page all that it rolled up is deleted, another
key that rolls up alike is stored, and one that comes before. After the second page its only key is
deleted. -/

private def respondAmid (planned : List (List Write) × Busy) (call : Call) :
    Call.Reply call × (List (List Write) × Busy) :=
  let moment := planned.2.store.writeAll (planned.1.headD [])
  let (reply, store) := moment.respond call
  (reply, (planned.1.tail, ⟨store, planned.2.found ++ [moment]⟩))

private def meddling : List (List Write) :=
  [[],
    [.erase ⟨"a/b/x"⟩, .erase ⟨"a/b/y"⟩, .put ⟨"a/b/z"⟩ ⟨.empty, false⟩,
      .put ⟨"a/a"⟩ ⟨.empty, false⟩],
    [.erase ⟨"a/c"⟩]]

private def crowded : Store :=
  ((((Store.empty.withPageSize 1).insert ⟨"a/b/x"⟩ .empty).insert ⟨"a/b/y"⟩ .empty).insert
    ⟨"a/c"⟩ .empty).insert ⟨"a/d"⟩ .empty

theorem collectPages_amid_writes_meddling :
    ∃ pages after, Run AmidWrites (collectPages "a/" (some "/") 9 9 none).run ⟨crowded, []⟩
        (.ok pages) after ∧
      pages.map ListingPage.entries = [["a/b/"], ["a/c"], ["a/d"]] ∧
      ∃ shown : List (List Entry), List.Forall₂ Shows pages shown ∧
        ∃ entry ∈ shown.flatten, entry.Reports "a/" (some "/") "a/d" := by
  let standsFor (planned : List (List Write) × Busy) (busy : Busy) : Prop := planned.2 = busy
  have keeps (planned : List (List Write) × Busy) (busy : Busy) (call : Call)
      (same : standsFor planned busy) :
      ∃ next, AmidWrites busy call (respondAmid planned call).1 next ∧
        standsFor (respondAmid planned call).2 next := by
    subst same
    exact ⟨_, .served planned.2 _ call, rfl⟩
  have starts : standsFor (meddling, ⟨crowded, []⟩) ⟨crowded, []⟩ := rfl
  rcases Run.exists_of_responder standsFor keeps (collectPages "a/" (some "/") 9 9 none).run starts
    with ⟨after, run, isAfter⟩
  have isPages : ((collectPages "a/" (some "/") 9 9 none).run.run respondAmid
      (meddling, ⟨crowded, []⟩)).1 =
        .ok [⟨[], ["a/b/"], some "a/b/"⟩, ⟨["a/c"], [], some "a/c"⟩, ⟨["a/d"], [], none⟩] := by
    decide +kernel
  rw [isPages] at run
  rcases collectPages_amid_writes run with ⟨shown, shows, -, -, complete⟩
  refine ⟨_, after, run, rfl, shown, shows, complete "a/d" ⟨"d", rfl⟩ ?_⟩
  change _ = after at isAfter
  rw [← isAfter]
  decide +kernel

end Depot.Directory
