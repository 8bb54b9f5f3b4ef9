import Depot.Proofs.ByteOrder
import Depot.Proofs.Children
import Depot.Proofs.Listing

/-!
What a listing is, said without pages. A key that holds the delimiter behind the lead stands for
itself and all keys that agree with it up to the first such delimiter; any other key that matches
stands for itself alone. Following the continuations gives exactly these keys and these roll-ups,
each once and in the order of their bytes, on pages of any size.
-/

namespace Depot.Text

/-! ## The first place of a needle -/

theorem exists_cutText? {needle before after : List Char} :
    ∃ first rest, cutText? needle (before ++ needle ++ after) = some (first, rest) := by
  induction before with
  | nil =>
      refine ⟨[], after, cutText?_of_lead ?_⟩
      rw [dropLead?_eq_some_iff]
      rfl
  | cons character before induction =>
      cases found : dropLead? needle (character :: (before ++ needle ++ after)) with
      | some rest => exact ⟨[], rest, cutText?_of_lead found⟩
      | none =>
          rcases induction with ⟨first, rest, later⟩
          refine ⟨character :: first, rest, ?_⟩
          rw [List.cons_append, List.cons_append, cutText?_cons found, later]
          rfl

theorem length_le_of_cutText? {needle text before after earlier rest : List Char}
    (cut : cutText? needle text = some (before, after)) (also : text = earlier ++ needle ++ rest) :
    before.length ≤ earlier.length := by
  induction earlier generalizing text before with
  | nil =>
      have found : dropLead? needle text = some rest := dropLead?_eq_some_iff.mpr also
      rw [cutText?_of_lead found] at cut
      cases cut
      exact Nat.le_refl _
  | cons character earlier induction =>
      subst also
      rw [List.cons_append, List.cons_append] at cut
      cases found : dropLead? needle (character :: (earlier ++ needle ++ rest)) with
      | some behind =>
          rw [cutText?_of_lead found] at cut
          cases cut
          exact Nat.zero_le _
      | none =>
          rw [cutText?_cons found, Option.map_eq_some_iff] at cut
          rcases cut with ⟨⟨shorter, behind⟩, later, same⟩
          cases same
          exact Nat.succ_le_succ (induction later rfl)

/-- A text is cut at the first place where the needle stands. -/
theorem cutText?_eq_some_iff {needle text before after : List Char} :
    cutText? needle text = some (before, after) ↔
      text = before ++ needle ++ after ∧
        ∀ earlier rest, text = earlier ++ needle ++ rest → before.length ≤ earlier.length := by
  constructor
  · intro cut
    exact ⟨cutText?_eq_some cut, fun _ _ => length_le_of_cutText? cut⟩
  · intro given
    rcases given with ⟨whole, first⟩
    rcases @exists_cutText? needle before after with ⟨found, rest, cut⟩
    rw [← whole] at cut
    have notBefore := first found rest (cutText?_eq_some cut)
    have notAfter := length_le_of_cutText? cut whole
    have same := whole.symm.trans (cutText?_eq_some cut)
    rw [List.append_assoc, List.append_assoc] at same
    rcases List.append_inj same (by omega) with ⟨rfl, behind⟩
    rw [cut, List.append_cancel_left behind]

end Depot.Text

namespace Depot.Memory

variable {lead key text : String} {delimiter : Option String}

/-- Whether a key starts with the lead and holds the delimiter behind it, and `text` is the key up
to and including the first delimiter there. An empty delimiter is no delimiter. -/
def RollsUp (lead : String) (delimiter : Option String) (key text : String) : Prop :=
  ∃ separator before after, delimiter = some separator ∧ separator ≠ "" ∧
    key = lead ++ before ++ separator ++ after ∧ text = lead ++ before ++ separator ∧
    ∀ earlier rest, key = lead ++ earlier ++ separator ++ rest → before.length ≤ earlier.length

theorem cutText?_behind_lead_iff {separator before after : String} {rest : List Char}
    (whole : key.toList = lead.toList ++ rest) :
    Text.cutText? separator.toList rest = some (before.toList, after.toList) ↔
      key = lead ++ before ++ separator ++ after ∧
        ∀ earlier rest, key = lead ++ earlier ++ separator ++ rest →
          before.length ≤ earlier.length := by
  have behind (first last : String) : key = lead ++ first ++ separator ++ last ↔
      rest = first.toList ++ separator.toList ++ last.toList := by
    rw [← String.toList_inj, whole]
    simp
  rw [Text.cutText?_eq_some_iff, behind]
  apply and_congr_right
  intro _
  constructor
  · intro first earlier last also
    exact first earlier.toList last.toList ((behind earlier last).mp also)
  · intro first earlier last also
    have shorter := first (String.ofList earlier) (String.ofList last)
    rw [behind, String.toList_ofList, String.toList_ofList] at shorter
    simpa [String.length] using shorter also

/-- The entry of a key is a roll-up exactly if the key rolls up. -/
theorem ofKey_eq_rolledUp_iff :
    Entry.ofKey lead delimiter key = .rolledUp text ↔ RollsUp lead delimiter key text := by
  constructor
  · intro found
    unfold Entry.ofKey at found
    split at found
    · cases found
    next separator =>
      split at found
      · cases found
      next something =>
        split at found
        · cases found
        next rest dropped =>
          split at found
          · cases found
          next before after cut =>
            cases found
            have whole := Text.dropLead?_eq_some_iff.mp dropped
            rw [← String.toList_ofList (l := before), ← String.toList_ofList (l := after),
              cutText?_behind_lead_iff whole] at cut
            exact ⟨separator, _, _, rfl, something, cut.1, rfl, cut.2⟩
  · intro rolls
    rcases rolls with ⟨separator, before, after, rfl, something, whole, rfl, first⟩
    have behind : key.toList =
        lead.toList ++ (before.toList ++ separator.toList ++ after.toList) := by
      rw [whole]
      simp
    have dropped := Text.dropLead?_eq_some_iff.mpr behind
    have cut := (cutText?_behind_lead_iff behind).mpr ⟨whole, first⟩
    simp only [Entry.ofKey, something, if_false, dropped, cut, String.ofList_toList]

/-- A key that does not roll up stands for itself. -/
theorem ofKey_eq_key_iff : Entry.ofKey lead delimiter key = .key text ↔
    text = key ∧ ∀ rolled, ¬RollsUp lead delimiter key rolled := by
  simp only [← ofKey_eq_rolledUp_iff]
  cases found : Entry.ofKey lead delimiter key with
  | key own => simp [Entry.ofKey_eq_key found, eq_comm]
  | rolledUp rolled => simp

namespace Store

variable {store : Store}

/-- Whether a key is among those that a listing looks at. -/
def Matches (store : Store) (lead key : String) : Prop :=
  ∃ rest, key = store.filterLead lead ++ rest

theorem startsWith_iff_matches :
    Text.startsWith (store.filterLead lead).toList key.toList = true ↔ store.Matches lead key := by
  rw [Text.startsWith_iff, Matches]
  constructor
  · intro given
    rcases given with ⟨rest, whole⟩
    refine ⟨String.ofList rest, ?_⟩
    rw [← String.toList_inj, whole]
    simp
  · intro given
    rcases given with ⟨rest, rfl⟩
    exact ⟨rest.toList, by simp⟩

/-- What rolls up starts with the lead, so it matches. -/
theorem matches_of_rollsUp (rolls : RollsUp lead delimiter key text) : store.Matches lead key := by
  rcases rolls with ⟨separator, before, after, -, -, rfl, -, -⟩
  apply startsWith_iff_matches.mp
  apply Directory.startsWith_filterLead
  rw [Text.startsWith_iff]
  exact ⟨before.toList ++ separator.toList ++ after.toList, by simp⟩

theorem mem_key?_entriesBehind :
    text ∈ (store.entriesBehind lead delimiter none).filterMap Entry.key? ↔
      text ∈ store.keys ∧ store.Matches lead text ∧
        ∀ rolled, ¬RollsUp lead delimiter text rolled := by
  rw [List.mem_filterMap]
  constructor
  · intro given
    rcases given with ⟨entry, member, isKey⟩
    rcases mem_entriesBehind.mp member with ⟨key, stored, shown, -, found⟩
    cases entry <;> cases isKey
    rcases ofKey_eq_key_iff.mp found with ⟨rfl, alone⟩
    exact ⟨stored, startsWith_iff_matches.mp shown, alone⟩
  · intro given
    rcases given with ⟨stored, shown, alone⟩
    refine ⟨.key text, mem_entriesBehind.mpr ⟨text, stored, ?_, rfl, ?_⟩, rfl⟩
    · exact startsWith_iff_matches.mpr shown
    · exact ofKey_eq_key_iff.mpr ⟨rfl, alone⟩

theorem mem_rolledUp?_entriesBehind :
    text ∈ (store.entriesBehind lead delimiter none).filterMap Entry.rolledUp? ↔
      ∃ key ∈ store.keys, RollsUp lead delimiter key text := by
  rw [List.mem_filterMap]
  constructor
  · intro given
    rcases given with ⟨entry, member, isRolled⟩
    rcases mem_entriesBehind.mp member with ⟨key, stored, -, -, found⟩
    cases entry <;> cases isRolled
    exact ⟨key, stored, ofKey_eq_rolledUp_iff.mp found⟩
  · intro given
    rcases given with ⟨key, stored, rolls⟩
    refine ⟨.rolledUp text, mem_entriesBehind.mpr ⟨key, stored, ?_, rfl, ?_⟩, rfl⟩
    · exact startsWith_iff_matches.mpr (matches_of_rollsUp rolls)
    · exact ofKey_eq_rolledUp_iff.mpr rolls

/-- Picking the texts of some entries keeps their order. -/
theorem filterMap_increasing {entries : List Entry} {pick : Entry → Option String}
    (increasing : entries.Pairwise Entry.Before)
    (ownText : ∀ entry text, pick entry = some text → entry.text = text) :
    (entries.filterMap pick).Pairwise fun left right => Text.bytes left < Text.bytes right := by
  rw [List.pairwise_filterMap]
  apply increasing.imp
  intro first second before left isLeft right isRight
  rw [Text.bytes_lt_bytes_iff, ← ownText first left isLeft, ← ownText second right isRight]
  exact before

/-- Following the continuations of a store gives its whole listing, on pages of any size. -/
theorem pages_hold_listing (store : Store) (lead : String) (delimiter : Option String) :
    ∃ keys leads : List String,
      (keys.Pairwise fun left right => Text.bytes left < Text.bytes right) ∧
      (leads.Pairwise fun left right => Text.bytes left < Text.bytes right) ∧
      (∀ text, text ∈ keys ↔ text ∈ store.keys ∧ store.Matches lead text ∧
        ∀ rolled, ¬RollsUp lead delimiter text rolled) ∧
      (∀ text, text ∈ leads ↔ ∃ key ∈ store.keys, RollsUp lead delimiter key text) ∧
      ∀ size, ∃ pages,
        (∀ followed, PagesFrom (store.withPageSize size) lead delimiter none followed ↔
          followed = pages) ∧
        pages.flatMap ListingPage.keys = keys ∧
        pages.flatMap ListingPage.commonLeads = leads ∧
        (∀ page ∈ pages.dropLast, page.entries.length = max size 1) ∧
        pages.length ≤ keys.length + leads.length + 1 ∧
        ∀ (before : Watched) (limit : Nat), before.store = store.withPageSize size →
          pages.length ≤ limit →
          Yields (Directory.collectPages lead delimiter limit limit none) before (.ok pages)
            before := by
  let entries := store.entriesBehind lead delimiter none
  have increasing : entries.Pairwise Entry.Before := entriesBehind_increasing _ _ _ _
  refine ⟨entries.filterMap Entry.key?, entries.filterMap Entry.rolledUp?,
    filterMap_increasing increasing ?_, filterMap_increasing increasing ?_,
    fun _ => mem_key?_entriesBehind, fun _ => mem_rolledUp?_entriesBehind, ?_⟩
  · intro entry text isKey
    cases entry <;> cases isKey
    rfl
  · intro entry text isRolled
    cases entry <;> cases isRolled
    rfl
  · intro size
    have begins : CanContinue lead delimiter none := trivial
    rcases PagesFrom.exists_holds (store.withPageSize size) begins with ⟨pages, whole, held⟩
    refine ⟨pages, ?_, held.keys, held.commonLeads, held.full, ?_, ?_⟩
    · intro followed
      constructor
      · exact whole.unique
      · rintro rfl
        exact whole
    · rw [length_filterMap_entries]
      exact held.few
    · intro before limit same enough
      rw [← same] at whole
      exact Directory.yields_of_pagesFrom whole enough

end Store

end Depot.Memory
