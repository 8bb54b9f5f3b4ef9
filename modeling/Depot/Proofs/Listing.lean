import Mathlib.Data.List.Sort
import Depot.Directory
import Depot.Proofs.Failures
import Depot.Proofs.Objects
import Depot.Proofs.Rollups

/-!
Listings. The entries behind a continuation are in the strict order of their texts, and are those of
the whole listing that come after it; so a page is the beginning of what is left, and the next page
goes on where it ends. Collected pages hold the whole listing, whatever their size is.
-/

namespace Depot.Memory

/-! ## Entries without repeats -/

/-- Whether an entry comes before another one in a listing. -/
def Entry.Before (first second : Entry) : Prop := first.text < second.text

instance : Std.Irrefl Entry.Before where
  irrefl entry := lt_irrefl entry.text

instance : Std.Antisymm Entry.Before where
  antisymm _ _ before after := absurd after (lt_asymm before)

/-- Whether an entry may follow another one before repeats are dropped. -/
def Entry.MayPrecede (first second : Entry) : Prop :=
  first.Before second ∨ first = second ∧ first.rolledUp?.isSome

theorem mem_dropRepeats {entry : Entry} {entries : List Entry} :
    entry ∈ dropRepeats entries ↔ entry ∈ entries := by
  fun_induction dropRepeats entries with
  | case1 => rfl
  | case2 => rfl
  | case3 first second entries repeated induction =>
      rw [induction, repeated.1]
      simp
  | case4 first second entries different induction => rw [List.mem_cons, induction, ← List.mem_cons]

theorem length_dropRepeats_le (entries : List Entry) :
    (dropRepeats entries).length ≤ entries.length := by
  fun_induction dropRepeats entries with
  | case1 => exact Nat.le_refl _
  | case2 => exact Nat.le_refl _
  | case3 first second entries repeated induction => exact Nat.le_succ_of_le induction
  | case4 first second entries different induction => exact Nat.succ_le_succ induction

theorem dropRepeats_increasing {entries : List Entry}
    (ordered : entries.Pairwise Entry.MayPrecede) :
    (dropRepeats entries).Pairwise Entry.Before := by
  fun_induction dropRepeats entries with
  | case1 => exact List.Pairwise.nil
  | case2 entry => exact List.pairwise_singleton _ entry
  | case3 first second entries repeated induction =>
      exact induction (List.pairwise_cons.mp ordered).2
  | case4 first second entries different induction =>
      rcases List.pairwise_cons.mp ordered with ⟨precedes, later⟩
      rw [List.pairwise_cons]
      refine ⟨?_, induction later⟩
      have next : first.Before second := by
        rcases precedes second List.mem_cons_self with before | same
        · exact before
        · exact absurd same different
      intro entry member
      rcases List.mem_cons.mp (mem_dropRepeats.mp member) with rfl | member
      · exact next
      · rcases (List.pairwise_cons.mp later).1 entry member with before | ⟨rfl, -⟩
        · exact lt_trans next before
        · exact next

namespace Store

variable {store : Store} {lead : String} {delimiter token : Option String}

/-- Whether a listing can go on from here: at its beginning, or behind the text of an entry. -/
def CanContinue (lead : String) (delimiter : Option String) : Option String → Prop
  | none => True
  | some text => (Entry.ofKey lead delimiter text).text = text

/-! ## The entries behind a continuation -/

theorem mem_entriesBehind {entry : Entry} :
    entry ∈ store.entriesBehind lead delimiter token ↔
      ∃ key ∈ store.keys, Text.startsWith (store.filterLead lead).toList key.toList = true ∧
        isBehind lead delimiter token key = true ∧ Entry.ofKey lead delimiter key = entry := by
  simp only [entriesBehind, mem_dropRepeats, List.mem_map, List.mem_filter, Bool.and_eq_true]
  constructor
  · intro given
    rcases given with ⟨key, ⟨stored, behind, shown⟩, found⟩
    exact ⟨key, stored, shown, behind, found⟩
  · intro given
    rcases given with ⟨key, stored, shown, behind, found⟩
    exact ⟨key, ⟨stored, behind, shown⟩, found⟩

theorem length_entriesBehind_le (store : Store) (lead : String) (delimiter token : Option String) :
    (store.entriesBehind lead delimiter token).length ≤ store.keys.length := by
  apply le_trans (length_dropRepeats_le _)
  rw [List.length_map]
  exact List.length_filter_le _ _

theorem entriesBehind_increasing (store : Store) (lead : String)
    (delimiter token : Option String) :
    (store.entriesBehind lead delimiter token).Pairwise Entry.Before := by
  apply dropRepeats_increasing
  rw [List.pairwise_map]
  apply List.Pairwise.imp _ (store.objects.keys_increasing.filter _)
  intro left right before
  rcases lt_or_eq_of_le (Entry.text_ofKey_mono (le_of_lt before)) with less | same
  · exact .inl less
  · -- Two keys make the same entry only if they are rolled up.
    have sameEntry := Entry.ofKey_eq_of_text_eq same
    refine .inr ⟨sameEntry, ?_⟩
    cases found : Entry.ofKey lead delimiter left with
    | key text =>
        have leftText := Entry.ofKey_eq_key found
        have rightText := Entry.ofKey_eq_key (sameEntry ▸ found)
        rw [← leftText, ← rightText] at before
        exact absurd before (lt_irrefl text)
    | rolledUp text => rfl

/-- Behind the text of an entry are the entries of the whole listing that come after it. -/
theorem entriesBehind_some {text : String} (own : CanContinue lead delimiter (some text)) :
    store.entriesBehind lead delimiter (some text) =
      (store.entriesBehind lead delimiter none).filter fun entry => text < entry.text := by
  apply (entriesBehind_increasing store lead delimiter (some text)).eq_of_mem_iff
    ((entriesBehind_increasing store lead delimiter none).filter _)
  intro entry
  rw [List.mem_filter, mem_entriesBehind, mem_entriesBehind, decide_eq_true_eq]
  constructor
  · intro given
    rcases given with ⟨key, stored, shown, behind, rfl⟩
    exact ⟨⟨key, stored, shown, rfl, rfl⟩, (isBehind_some_iff own).mp behind⟩
  · intro given
    rcases given with ⟨⟨key, stored, shown, -, rfl⟩, after⟩
    exact ⟨key, stored, shown, (isBehind_some_iff own).mpr after, rfl⟩

theorem text_lt_of_mem_entriesBehind {text : String} {entry : Entry}
    (own : CanContinue lead delimiter (some text))
    (member : entry ∈ store.entriesBehind lead delimiter (some text)) : text < entry.text := by
  rw [entriesBehind_some own, List.mem_filter, decide_eq_true_eq] at member
  exact member.2

/-! ## Pages -/

theorem drop_eq_filter {entries taken rest : List Entry} {last : Entry}
    (increasing : entries.Pairwise Entry.Before) (whole : entries = taken ++ last :: rest) :
    rest = entries.filter fun entry => last.text < entry.text := by
  rw [whole, List.pairwise_append, List.pairwise_cons] at increasing
  rcases increasing with ⟨-, ⟨lastBefore, -⟩, takenBefore⟩
  have noneTaken : taken.filter (fun entry => last.text < entry.text) = [] := by
    rw [List.filter_eq_nil_iff]
    intro entry member
    rw [decide_eq_true_eq]
    exact lt_asymm (takenBefore entry member last List.mem_cons_self)
  have allLeft : rest.filter (fun entry => last.text < entry.text) = rest := by
    rw [List.filter_eq_self]
    intro entry member
    exact decide_eq_true (lastBefore entry member)
  rw [whole, List.filter_append, noneTaken, List.filter_cons, allLeft]
  simp [-String.lt_iff_ltb]

/-- A page without a continuation holds all that is left; behind any other page, what its entries
leave over goes on. -/
theorem listPage_cases (store : Store) (canContinue : CanContinue lead delimiter token) :
    ((store.listPage lead delimiter token).continuation = none ∧
        (store.entriesBehind lead delimiter token).length ≤ store.pageSize) ∨
      ∃ next, (store.listPage lead delimiter token).continuation = some next ∧
        CanContinue lead delimiter (some next) ∧
        store.pageSize < (store.entriesBehind lead delimiter token).length ∧
        store.entriesBehind lead delimiter (some next) =
          (store.entriesBehind lead delimiter token).drop store.pageSize := by
  have increasing := entriesBehind_increasing store lead delimiter token
  generalize behindEq : store.entriesBehind lead delimiter token = behind at increasing
  rcases Nat.lt_or_ge store.pageSize behind.length with more | fits
  · right
    have positive := store.pageSize_pos
    rcases List.eq_nil_or_concat (behind.take store.pageSize) with nothing | ⟨taken, last, taking⟩
    · have := congrArg List.length nothing
      rw [List.length_take, List.length_nil] at this
      omega
    have whole : behind = taken ++ last :: behind.drop store.pageSize := by
      conv => lhs; rw [← List.take_append_drop store.pageSize behind, taking]
      simp
    have member : last ∈ store.entriesBehind lead delimiter token := by
      rw [behindEq, whole]
      simp
    have own : CanContinue lead delimiter (some last.text) := by
      rcases mem_entriesBehind.mp member with ⟨key, -, -, -, rfl⟩
      rw [CanContinue, Entry.ofKey_text_ofKey]
    refine ⟨last.text, ?_, own, more, ?_⟩
    · simp [listPage, behindEq, more, taking]
    · rw [drop_eq_filter increasing whole, entriesBehind_some own, ← behindEq]
      cases token with
      | none => rfl
      | some text =>
          -- What comes after the last entry of the page comes after where the page began.
          have after := text_lt_of_mem_entriesBehind canContinue member
          rw [entriesBehind_some canContinue, List.filter_filter]
          apply List.filter_congr
          intro entry _
          rw [← Bool.decide_and]
          apply decide_eq_decide.mpr
          constructor
          · intro later
            exact ⟨later, lt_trans after later⟩
          · exact And.left
  · left
    refine ⟨?_, fits⟩
    simp [listPage, behindEq, Nat.not_lt.mpr fits]

/-- Every entry is a key or a roll-up. -/
theorem length_filterMap_entries (entries : List Entry) :
    (entries.filterMap Entry.key?).length + (entries.filterMap Entry.rolledUp?).length =
      entries.length := by
  induction entries with
  | nil => rfl
  | cons entry entries induction =>
      cases entry <;>
        simp only [List.filterMap_cons, Entry.key?, Entry.rolledUp?, List.length_cons] <;>
        omega

theorem length_entries_listPage (store : Store) (lead : String) (delimiter token : Option String) :
    (store.listPage lead delimiter token).entries.length =
      min store.pageSize (store.entriesBehind lead delimiter token).length := by
  rw [ListingPage.entries, List.length_append, listPage, length_filterMap_entries,
    List.length_take]

/-! ## Following continuations -/

/-- The pages of a listing of a store that stays as it is: every page but the last has a
continuation, and the next page is the one behind it. -/
inductive PagesFrom (store : Store) (lead : String) (delimiter : Option String) :
    Option String → List ListingPage → Prop
  | last {token : Option String}
      (ends : (store.listPage lead delimiter token).continuation = none) :
      PagesFrom store lead delimiter token [store.listPage lead delimiter token]
  | more {token : Option String} {next : String} {pages : List ListingPage}
      (goesOn : (store.listPage lead delimiter token).continuation = some next)
      (others : PagesFrom store lead delimiter (some next) pages) :
      PagesFrom store lead delimiter token (store.listPage lead delimiter token :: pages)

namespace PagesFrom

variable {pages : List ListingPage}

theorem ne_nil (whole : PagesFrom store lead delimiter token pages) : pages ≠ [] := by
  cases whole <;> exact List.cons_ne_nil _ _

theorem unique {others : List ListingPage} (whole : PagesFrom store lead delimiter token pages)
    (also : PagesFrom store lead delimiter token others) : others = pages := by
  induction whole generalizing others with
  | last ends =>
      cases also with
      | last => rfl
      | more goesOn => simp [ends] at goesOn
  | more goesOn behind induction =>
      cases also with
      | last ends => simp [ends] at goesOn
      | more goesOnToo later =>
          rw [goesOn] at goesOnToo
          cases goesOnToo
          rw [induction later]

/-- What the pages of a listing hold: all entries, in order, and as many on each page but the last
as a page may have. -/
structure Holds (store : Store) (entries : List Entry) (pages : List ListingPage) : Prop where
  keys : pages.flatMap ListingPage.keys = entries.filterMap Entry.key?
  commonLeads : pages.flatMap ListingPage.commonLeads = entries.filterMap Entry.rolledUp?
  full : ∀ page ∈ pages.dropLast, page.entries.length = store.pageSize
  few : pages.length ≤ entries.length + 1

/-- A listing comes to an end, because every page but the last takes some entries away. -/
theorem exists_holds (store : Store) (canContinue : CanContinue lead delimiter token) :
    ∃ pages, PagesFrom store lead delimiter token pages ∧
      Holds store (store.entriesBehind lead delimiter token) pages := by
  -- By how many entries are left behind the continuation.
  induction size : (store.entriesBehind lead delimiter token).length using Nat.strongRecOn
    generalizing token with
  | ind size induction =>
      rcases store.listPage_cases canContinue with
        ⟨ends, fits⟩ | ⟨next, goesOn, nextContinues, more, rest⟩
      · refine ⟨_, .last ends, ?_, ?_, by simp, by simp⟩
        · simp [listPage, List.take_of_length_le fits]
        · simp [listPage, List.take_of_length_le fits]
      · have positive := store.pageSize_pos
        have left := congrArg List.length rest
        rw [List.length_drop] at left
        rcases induction _ (by omega) nextContinues rfl with ⟨pages, others, held⟩
        refine ⟨_, .more goesOn others, ?_, ?_, ?_, ?_⟩
        · rw [List.flatMap_cons, held.keys, rest, listPage, ← List.filterMap_append,
            List.take_append_drop]
        · rw [List.flatMap_cons, held.commonLeads, rest, listPage, ← List.filterMap_append,
            List.take_append_drop]
        · rw [List.dropLast_cons_of_ne_nil others.ne_nil, List.forall_mem_cons]
          refine ⟨?_, held.full⟩
          rw [length_entries_listPage]
          omega
        · have few := held.few
          rw [List.length_cons]
          omega

end PagesFrom

end Store

end Depot.Memory

namespace Depot.Directory

open Memory

variable {before : Watched} {limit left : Nat} {lead : String} {delimiter token : Option String}
  {pages : List ListingPage}

/-! ## Collected pages -/

/-- Collecting pages follows the continuations, if there may be so many pages. -/
theorem yields_of_pagesFrom (whole : Store.PagesFrom before.store lead delimiter token pages)
    (enough : pages.length ≤ left) :
    Yields (collectPages lead delimiter limit left token) before (.ok pages) before := by
  have asked (token : Option String) : Yields (Client.listPage lead delimiter token) before
      (.ok (before.store.listPage lead delimiter token)) before := Yields.listPage _ _ _
  induction whole generalizing left with
  | last ends =>
      cases left with
      | zero => simp at enough
      | succ left =>
          refine (asked _).reading ?_
          rw [ends]
          exact Yields.ofPure _
  | more goesOn others induction =>
      cases left with
      | zero => simp at enough
      | succ left =>
          refine (asked _).reading ?_
          rw [goesOn]
          exact (induction (by simpa using enough)).reading (Yields.ofPure _)

theorem yields_endless (whole : Store.PagesFrom before.store lead delimiter token pages)
    (tooMany : left < pages.length) :
    Yields (collectPages lead delimiter limit left token) before
      (.error (.endlessListing limit)) before := by
  have asked (token : Option String) : Yields (Client.listPage lead delimiter token) before
      (.ok (before.store.listPage lead delimiter token)) before := Yields.listPage _ _ _
  induction whole generalizing left with
  | last ends =>
      cases left with
      | zero => exact Yields.ofThrow _
      | succ left => simp at tooMany
  | more goesOn others induction =>
      cases left with
      | zero => exact Yields.ofThrow _
      | succ left =>
          refine (asked _).reading ?_
          rw [goesOn]
          exact (induction (by simpa using tooMany)).stopping

/-- Collecting pages changes nothing and gives all entries that are left, unless there are more of
them than pages may come. -/
theorem yields_collectPages (before : Watched) (lead : String) (delimiter : Option String)
    (limit left : Nat) (token : Option String)
    (canContinue : Store.CanContinue lead delimiter token) :
    ∃ value, Yields (collectPages lead delimiter limit left token) before value before ∧
      (∀ error, value = .error error → error = .endlessListing limit ∧
        left ≤ (before.store.entriesBehind lead delimiter token).length) ∧
      ∀ pages, value = .ok pages →
        pages.flatMap ListingPage.keys =
          (before.store.entriesBehind lead delimiter token).filterMap Entry.key? ∧
        pages.flatMap ListingPage.commonLeads =
          (before.store.entriesBehind lead delimiter token).filterMap Entry.rolledUp? := by
  rcases Store.PagesFrom.exists_holds before.store canContinue with ⟨pages, whole, held⟩
  rcases Nat.lt_or_ge left pages.length with tooMany | enough
  · refine ⟨_, yields_endless whole tooMany, ?_, by simp⟩
    intro _ same
    cases same
    have few := held.few
    exact ⟨rfl, by omega⟩
  · refine ⟨_, yields_of_pagesFrom whole enough, by simp, ?_⟩
    intro _ same
    cases same
    exact ⟨held.keys, held.commonLeads⟩

end Depot.Directory
