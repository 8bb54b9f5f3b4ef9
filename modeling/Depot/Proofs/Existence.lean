import Depot.Proofs.Deletion
import Depot.Proofs.Locations

/-!
When a directory exists. A directory exists if something is stored whose key starts with its own key,
while a listing looks behind the key with the delimiters at its end merged. For a key that ends in a
single delimiter both look at the same place. For any other key of a directory a listing may find what
the search for the directory overlooks.
-/

namespace Depot.Memory

namespace Entry

variable {lead key : String}

/-- What a key is rolled up into starts with the lead if the key does. -/
theorem startsWith_text_ofKey_iff (delimiter : Option String) :
    Text.startsWith lead.toList (ofKey lead delimiter key).text.toList = true ↔
      Text.startsWith lead.toList key.toList = true := by
  constructor
  · intro starts
    rw [Text.startsWith_iff_initial] at starts ⊢
    exact starts.trans (Text.startsWith_iff_initial.mp (startsWith_text_ofKey lead delimiter key))
  · intro starts
    unfold ofKey
    split
    · exact starts
    · split
      · exact starts
      · split
        · exact starts
        · split
          · exact starts
          · rw [Text.startsWith_iff]
            exact ⟨_, by rw [Entry.text, String.toList_append, String.toList_append,
              List.append_assoc]⟩

end Entry

namespace Store

variable {store : Store} {lead : String}

/-- Whether a stored key starts with a text. -/
def HasLead (store : Store) (lead : String) : Prop :=
  ∃ key ∈ store.keys, Text.startsWith lead.toList key.toList = true

/-- Whether a stored key starts with a text and goes on behind it. -/
def HasBehind (store : Store) (lead : String) : Prop :=
  ∃ key ∈ store.keys, ∃ rest, rest ≠ [] ∧ key.toList = lead.toList ++ rest

/-- A stored key that starts with a text is the text, or goes on behind it. -/
theorem hasLead_iff :
    store.HasLead lead ↔ store.HasBehind lead ∨ (store.find? ⟨lead⟩).isSome = true := by
  rw [Option.isSome_iff_exists, ← mem_keys_iff]
  constructor
  · intro given
    rcases given with ⟨key, stored, starts⟩
    rcases Text.startsWith_iff.mp starts with ⟨rest, whole⟩
    by_cases nothing : rest = []
    · right
      rw [nothing, List.append_nil, String.toList_inj] at whole
      rwa [← whole]
    · exact .inl ⟨key, stored, rest, nothing, whole⟩
  · intro given
    rcases given with ⟨key, stored, rest, -, whole⟩ | stored
    · exact ⟨key, stored, Text.startsWith_iff.mpr ⟨rest, whole⟩⟩
    · exact ⟨lead, stored, Text.startsWith_iff.mpr ⟨[], by simp⟩⟩

theorem hasLead_empty_iff : store.HasLead "" ↔ store.keys ≠ [] := by
  constructor
  · intro given
    rcases given with ⟨text, stored, -⟩
    exact List.ne_nil_of_mem stored
  · intro something
    rcases List.exists_mem_of_ne_nil _ something with ⟨text, stored⟩
    exact ⟨text, stored, rfl⟩

/-- What goes on behind a text goes on behind its beginnings. -/
theorem HasBehind.shorter {longer : String} (behind : store.HasBehind longer)
    (starts : Text.startsWith lead.toList longer.toList = true) : store.HasBehind lead := by
  rcases behind with ⟨key, stored, rest, something, whole⟩
  rcases Text.startsWith_iff.mp starts with ⟨more, isLonger⟩
  refine ⟨key, stored, more ++ rest, by simp [something], ?_⟩
  rw [whole, isLonger, List.append_assoc]

/-- Looking for what starts with a text overlooks what goes on behind a beginning of it, if nothing
starts with the text itself. -/
theorem hasLead_agrees_iff {longer : String}
    (starts : Text.startsWith lead.toList longer.toList = true) :
    (store.HasLead longer →
        store.HasBehind lead ∨ (store.find? ⟨longer⟩).isSome = true) ∧
      ((store.HasLead longer ↔ store.HasBehind lead ∨ (store.find? ⟨longer⟩).isSome = true) ↔
        ¬(store.HasBehind lead ∧ ¬store.HasLead longer)) := by
  have shorter : store.HasLead longer →
      store.HasBehind lead ∨ (store.find? ⟨longer⟩).isSome = true := by
    intro holds
    rcases hasLead_iff.mp holds with behind | stored
    · exact .inl (behind.shorter starts)
    · exact .inr stored
  refine ⟨shorter, ?_⟩
  constructor
  · intro agrees overlooked
    exact overlooked.2 (agrees.mpr (.inl overlooked.1))
  · intro notOverlooked
    refine ⟨shorter, ?_⟩
    intro given
    rcases given with behind | stored
    · by_contra holdsNot
      exact notOverlooked ⟨behind, holdsNot⟩
    · exact hasLead_iff.mpr (.inr stored)

end Store

end Depot.Memory

namespace Depot.Directory

open Memory

variable {before : Watched} {lead key : String} {token : Option String} {pages : List ListingPage}

/-! ## What a listing finds -/

theorem isSome_child?_iff :
    (child? lead key).isSome = true ↔ ∃ rest, rest ≠ [] ∧ key.toList = lead.toList ++ rest := by
  rw [Option.isSome_iff_exists]
  constructor
  · intro given
    rcases given with ⟨name, child⟩
    rcases child?_eq_some_iff.mp child with ⟨rest, something, whole, -⟩
    exact ⟨rest, something, whole⟩
  · intro given
    rcases given with ⟨rest, something, whole⟩
    exact ⟨_, child?_eq_some_iff.mpr ⟨rest, something, whole, rfl⟩⟩

/-- A listing is empty unless something goes on behind its lead. -/
theorem children_ne_nil_iff {store : Store} :
    sortedDistinct (store.keys.filterMap (child? lead)) ≠ [] ↔ store.HasBehind lead := by
  constructor
  · intro something
    rcases List.exists_mem_of_ne_nil _ something with ⟨name, listed⟩
    rcases List.mem_filterMap.mp (mem_sortedDistinct.mp listed) with ⟨key, stored, child⟩
    exact ⟨key, stored, isSome_child?_iff.mp (Option.isSome_of_eq_some child)⟩
  · intro given
    rcases given with ⟨key, stored, behind⟩
    rcases Option.isSome_iff_exists.mp (isSome_child?_iff.mpr behind) with ⟨name, child⟩
    apply List.ne_nil_of_mem
    exact mem_sortedDistinct.mpr (List.mem_filterMap.mpr ⟨key, stored, child⟩)

/-- A plain name is listed as a directory exactly if a stored key starts with it behind the lead. -/
theorem mem_listed_directory_iff {store : Store} {name : String} (plain : delimiter ∉ name.toList) :
    name ++ "/" ∈ sortedDistinct (store.keys.filterMap (child? lead)) ↔
      store.HasLead (lead ++ name ++ "/") := by
  rw [mem_sortedDistinct, List.mem_filterMap]
  simp only [child?_eq_some_directory_iff plain]
  exact Iff.rfl

/-! ## What the search for a directory finds -/

/-- The search goes from page to page until an entry starts with the lead. -/
theorem yields_hasEntryBelow_of_pagesFrom {limit left : Nat}
    (whole : Store.PagesFrom before.store lead (some delimiterText) token pages)
    (enough : pages.length ≤ left) :
    Yields (hasEntryBelow lead limit left token) before
      (.ok ((pages.flatMap ListingPage.entries).any fun entry =>
        Text.startsWith lead.toList entry.toList)) before := by
  have asked (token : Option String) :
      Yields (Client.listPage lead (some delimiterText) token) before
        (.ok (before.store.listPage lead (some delimiterText) token)) before := Yields.listPage _ _ _
  induction whole generalizing left with
  | last ends =>
      cases left with
      | zero => simp at enough
      | succ left =>
          refine (asked _).reading ?_
          rw [List.flatMap_singleton]
          split
          · next found =>
            rw [found]
            exact Yields.ofPure true
          · next notFound =>
            rw [Bool.not_eq_true] at notFound
            rw [notFound, ends]
            exact Yields.ofPure false
  | more goesOn others induction =>
      cases left with
      | zero => simp at enough
      | succ left =>
          refine (asked _).reading ?_
          rw [List.flatMap_cons, List.any_append]
          split
          · next found =>
            rw [found]
            exact Yields.ofPure true
          · next notFound =>
            rw [Bool.not_eq_true] at notFound
            rw [notFound, goesOn]
            exact induction (by simpa using enough)

/-- The search finds whether something is stored that starts with the lead, whatever the pages and
the filter of the store are, if there are fewer keys than pages may come. -/
theorem yields_hasEntryBelow (before : Watched) (lead : String) {limit : Nat}
    (few : before.store.keys.length < limit) :
    ∃ found, Yields (hasEntryBelow lead limit limit none) before (.ok found) before ∧
      (found = true ↔ before.store.HasLead lead) := by
  have start : Store.CanContinue lead (some delimiterText) none := trivial
  rcases Store.PagesFrom.exists_holds before.store start with ⟨pages, whole, held⟩
  have enough : pages.length ≤ limit := by
    have fewPages := held.few
    have fewEntries := before.store.length_entriesBehind_le lead (some delimiterText) none
    omega
  refine ⟨_, yields_hasEntryBelow_of_pagesFrom whole enough, ?_⟩
  simp only [List.any_eq_true, mem_entries_of_collected held.keys held.commonLeads]
  constructor
  · intro given
    rcases given with ⟨_, ⟨entry, among, rfl⟩, starts⟩
    rcases Store.mem_entriesBehind.mp among with ⟨key, stored, -, -, rfl⟩
    exact ⟨key, stored, (Entry.startsWith_text_ofKey_iff _).mp starts⟩
  · intro given
    rcases given with ⟨key, stored, starts⟩
    refine ⟨_, ⟨Entry.ofKey lead (some delimiterText) key, ?_, rfl⟩,
      (Entry.startsWith_text_ofKey_iff _).mpr starts⟩
    exact Store.mem_entriesBehind.mpr ⟨key, stored, startsWith_filterLead starts, rfl, rfl⟩

/-- In the hierarchical namespace a directory that is not the root exists if something is stored that
starts with its key. -/
theorem yields_pathExists {limit : Nat} {key : ObjectKey} (notRoot : key.isRoot = false)
    (isDirectory : key.isDirectoryForm = true) (few : before.store.keys.length < limit) :
    ∃ found, Yields (pathExists .hierarchical limit key) before (.ok found) before ∧
      (found = true ↔ before.store.HasLead key.text) := by
  have marked : Yields (Client.exists? key) before (.ok (before.store.find? key).isSome) before :=
    Yields.exists? key
  rw [pathExists, notRoot]
  cases stored : (before.store.find? key).isSome with
  | true =>
      rw [stored] at marked
      refine ⟨true, marked.reading (Yields.ofPure true), ?_⟩
      rw [Store.hasLead_iff]
      exact iff_of_true rfl (.inr stored)
  | false =>
      rcases yields_hasEntryBelow before key.text few with ⟨found, searched, isFound⟩
      rw [stored] at marked
      refine ⟨found, marked.reading ?_, isFound⟩
      simp only [isDirectory, if_true]
      exact searched

end Depot.Directory

namespace Depot.ObjectKey

/-- A directory lies in the place that its listing looks behind, which may be further up. -/
theorem startsWith_lead {key : ObjectKey} (isDirectory : key.isDirectoryForm = true) :
    Text.startsWith key.trimDirectory.asDirectory.text.toList key.text.toList = true := by
  rw [text_asDirectory_trimDirectory]
  split
  · exact Text.startsWith_iff.mpr ⟨key.text.toList, rfl⟩
  · rcases Text.trimEnd_append_replicate delimiter key.text.toList with ⟨count, whole⟩
    cases count with
    | zero =>
        have isOpen := Text.endsWith_trimEnd delimiter key.text.toList
        rw [List.replicate_zero, List.append_nil] at whole
        rw [← whole, ← isDirectoryForm, isDirectory] at isOpen
        cases isOpen
    | succ count =>
        refine Text.startsWith_iff.mpr ⟨List.replicate count delimiter, ?_⟩
        rw [String.toList_append, text_trimDirectory_toList, List.append_assoc]
        exact whole

end Depot.ObjectKey

namespace Depot.Repository

open Memory

variable {Handle : Type} {repository : Repository Handle} {path : LogicalPath} {before : Watched}

theorem yields_exists_root (ready : repository.client.isSome = true)
    (isRoot : (Namespace.objectKey path).isRoot = true) :
    Yields (repository.exists? path) before (.ok true) before := by
  apply (yields_requireClient ready).reading
  unfold Directory.pathExists
  rw [if_pos isRoot]
  exact Yields.ofPure true

theorem yields_exists_directory (ready : repository.client.isSome = true)
    (hierarchical : repository.layout = .hierarchical)
    (notRoot : (Namespace.objectKey path).isRoot = false)
    (isDirectory : (Namespace.objectKey path).isDirectoryForm = true)
    (few : before.store.keys.length < repository.pageLimit) :
    ∃ found, Yields (repository.exists? path) before (.ok found) before ∧
      (found = true ↔ before.store.HasLead (Namespace.objectKey path).text) := by
  rcases Directory.yields_pathExists notRoot isDirectory few with ⟨found, searched, isFound⟩
  refine ⟨found, (yields_requireClient ready).reading ?_, isFound⟩
  rw [hierarchical]
  exact searched

/-- A directory of the hierarchical namespace that ends in a single delimiter exists exactly if it
lists something or is marked. A key that is a single delimiter always exists, so there the two differ
if nothing at all is stored. Any other directory that exists lists something or is marked as well, and
the two differ exactly if something is stored behind the merged key and nothing starts with the key
itself. -/
theorem exists_agrees_with_listing (ready : repository.client.isSome = true)
    (hierarchical : repository.layout = .hierarchical) (isClosed : path.isDirectory = true)
    (notRoot : path.isRoot = false) (few : before.store.keys.length < repository.pageLimit) :
    let key := Namespace.objectKey path
    let lead := key.trimDirectory.asDirectory.text
    ∃ found names,
      Yields (repository.exists? path) before (.ok found) before ∧
      Yields (repository.listAll path) before (.ok names) before ∧
      let listed := names ≠ [] ∨
        (before.store.find? (repository.layout.directoryKey path)).isSome = true
      (key.text = lead → (found = true ↔ listed)) ∧
      (key.isRoot = true → found = true ∧ (listed ↔ before.store.keys ≠ [])) ∧
      (key.isRoot = false → (found = true → listed) ∧ ((found = true ↔ listed) ↔
        ¬(before.store.HasBehind lead ∧ ¬before.store.HasLead key.text))) := by
  intro key lead
  have isDirectory : key.isDirectoryForm = true :=
    (Namespace.isDirectoryForm_objectKey isClosed).resolve_left (by simp [notRoot])
  have listing : Yields (repository.listAll path) before (.ok _) before := yields_listAll ready few
  have isMarked : repository.layout.directoryKey path = key.asDirectory := by
    rw [hierarchical]
    rfl
  have isLead : lead = if key.trimDirectory.text = "" then "" else key.trimDirectory.text ++ "/" :=
    ObjectKey.text_asDirectory_trimDirectory key
  cases isRoot : key.isRoot with
  | true =>
      have slash : key.text = "/" := ObjectKey.text_of_isRoot isRoot isDirectory
      have atTop : lead = "" := by
        have trimmed : key.trimDirectory.text = "" := by
          rw [ObjectKey.trimDirectory, slash]
          decide +kernel
        rw [isLead, if_pos trimmed]
      refine ⟨true, _, yields_exists_root ready isRoot, listing, ?_, ?_, by simp⟩
      · intro single
        rw [slash, atTop] at single
        exact absurd single (by decide)
      · intro _
        refine ⟨rfl, ?_⟩
        have above : key.asDirectory = ⟨""⟩ := by rw [ObjectKey.asDirectory, if_pos isRoot]; rfl
        rw [Directory.children_ne_nil_iff, isMarked, above]
        change before.store.HasBehind lead ∨ _ ↔ _
        rw [atTop, ← Store.hasLead_iff, Store.hasLead_empty_iff]
  | false =>
      rcases yields_exists_directory ready hierarchical isRoot isDirectory few with
        ⟨found, searched, isFound⟩
      refine ⟨found, _, searched, listing, ?_⟩
      rw [Directory.children_ne_nil_iff, isMarked, ObjectKey.asDirectory_of_isDirectoryForm isRoot
        isDirectory, isFound]
      have agrees := @Store.hasLead_agrees_iff before.store _ _
        (ObjectKey.startsWith_lead isDirectory)
      refine ⟨?_, by simp, fun _ => agrees⟩
      intro single
      apply agrees.2.mpr
      intro overlooked
      have behind : before.store.HasBehind key.text := by
        rw [single]
        exact overlooked.1
      exact overlooked.2 (Store.hasLead_iff.mpr (.inl behind))

/-! A store with one file, and a directory that was never marked. -/

private def drawer : Store := Store.empty.insert ⟨"a/f"⟩ (.mk #[1])

private def curator : Repository Unit := ⟨.hierarchical, 4, 10, .empty, some ()⟩

theorem exists_agrees_with_listing_drawer :
    Yields (curator.exists? (.make .s3 none "/a/")) (.fresh drawer) (.ok true) (.fresh drawer) ∧
      Yields (curator.listAll (.make .s3 none "/a/")) (.fresh drawer) (.ok ["f"]) (.fresh drawer) := by
  have ready : curator.client.isSome = true := rfl
  have isClosed : (LogicalPath.make .s3 none "/a/").isDirectory = true := by decide +kernel
  have few : (Watched.fresh drawer).store.keys.length < curator.pageLimit := by decide +kernel
  rcases exists_agrees_with_listing ready rfl isClosed (by decide +kernel) few with
    ⟨found, names, searched, listed, agrees, -, -⟩
  have isNames : (drawer.run (curator.listAll (.make .s3 none "/a/")).run).1 = .ok ["f"] := by
    decide +kernel
  have run := run_of_store (curator.listAll (.make .s3 none "/a/")).run (.fresh drawer)
  change Dialogue.Run Answered _ _ (drawer.run (curator.listAll (.make .s3 none "/a/")).run).1 _
    at run
  rw [isNames] at run
  rcases listed _ _ run with ⟨same, -⟩ | ⟨error, same, -⟩
  · cases same
    have isFound : found = true := (agrees (by decide +kernel)).mpr (.inl (List.cons_ne_nil _ _))
    rw [isFound] at searched
    exact ⟨searched, listed⟩
  · cases same

/-- A directory whose key ends in two delimiters lists the file below it, but does not exist. -/
theorem exists_overlooks_listed :
    ∃ path, Namespace.normalize .hierarchical "a//" = .ok path ∧ path.isDirectory = true ∧
      path.isRoot = false ∧ drawer.keys = ["a/f"] ∧
      Yields (curator.exists? path) (.fresh drawer) (.ok false) (.fresh drawer) ∧
      Yields (curator.listAll path) (.fresh drawer) (.ok ["f"]) (.fresh drawer) := by
  have located : Namespace.normalize .hierarchical "a//" = .ok (.make .s3 none "/a//") := by rfl
  have ready : curator.client.isSome = true := rfl
  have few : (Watched.fresh drawer).store.keys.length < curator.pageLimit := by decide +kernel
  have stored : drawer.keys = ["a/f"] := by decide +kernel
  have listing : Yields (curator.listAll (.make .s3 none "/a//")) (.fresh drawer) _ (.fresh drawer) :=
    yields_listAll ready few
  have isKey : Namespace.objectKey (.make .s3 none "/a//") = ⟨"a//"⟩ := by decide +kernel
  have notRoot : (Namespace.objectKey (.make .s3 none "/a//")).isRoot = false := by decide +kernel
  rcases yields_exists_directory ready rfl notRoot (by decide +kernel) few with
    ⟨found, searched, isFound⟩
  have notFound : found = false := by
    rw [Bool.eq_false_iff, ne_eq, isFound, isKey]
    intro starts
    rcases starts with ⟨key, among, starts⟩
    have inDrawer : key ∈ drawer.keys := among
    rw [stored, List.mem_singleton] at inDrawer
    subst inDrawer
    exact absurd starts (by decide +kernel)
  have names : sortedDistinct ((Watched.fresh drawer).store.keys.filterMap (Directory.child?
      (Namespace.objectKey (.make .s3 none "/a//")).trimDirectory.asDirectory.text)) = ["f"] := by
    decide +kernel
  rw [names] at listing
  rw [notFound] at searched
  exact ⟨_, located, by decide +kernel, by decide +kernel, stored, searched, listing⟩

end Depot.Repository
