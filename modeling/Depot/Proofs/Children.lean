import Depot.Proofs.Listing
import Depot.Proofs.Keys

/-!
The children of a directory. A key and the roll-up that stands for it in a listing belong to the
same child, so the children are those of the stored keys, whatever the pages and the filter of the
store are.
-/

namespace Depot.Text

theorem throughFirst?_eq_map (separator : Char) (text : List Char) :
    throughFirst? separator text =
      (cutText? [separator] text).map fun (before, _) => before ++ [separator] := by
  have same : cutText? [separator] text = cutAt? separator text := by
    induction text with
    | nil => rfl
    | cons first text induction =>
        by_cases here : separator = first
        · have found : dropLead? [separator] (first :: text) = some text := by
            simp [dropLead?, here]
          rw [cutText?_of_lead found]
          simp [cutAt?, here]
        · rw [cutText?_cons (by simp [dropLead?, here]), induction]
          have notHere : (first != separator) = true := by simp [Ne.symm here]
          simp only [cutAt?, List.dropWhile_cons, List.takeWhile_cons, notHere, if_true]
          cases text.dropWhile (· != separator) <;> rfl
  rw [throughFirst?, same]

theorem throughFirst?_eq_none_iff {separator : Char} {text : List Char} :
    throughFirst? separator text = none ↔ separator ∉ text := by
  rw [throughFirst?, Option.map_eq_none_iff, cutAt?_eq_none_iff]

theorem cutAt?_append {separator : Char} {before : List Char} (plain : separator ∉ before)
    (after : List Char) : cutAt? separator (before ++ separator :: after) = some (before, after) := by
  have passes : ∀ character ∈ before, (character != separator) = true := by
    intro character member
    rw [bne_iff_ne]
    rintro rfl
    exact plain member
  rw [cutAt?, List.dropWhile_append_of_pos passes, List.takeWhile_append_of_pos passes]
  simp

/-- What is kept up to the first separator. -/
theorem throughFirst?_eq_some_iff {separator : Char} {text kept : List Char} :
    throughFirst? separator text = some kept ↔
      ∃ before after, separator ∉ before ∧ kept = before ++ [separator] ∧ text = kept ++ after := by
  constructor
  · intro found
    rcases Option.map_eq_some_iff.mp found with ⟨⟨before, after⟩, cut, rfl⟩
    rcases cutAt?_eq_some cut with ⟨whole, plain⟩
    exact ⟨before, after, plain, rfl, by simp [whole]⟩
  · intro given
    rcases given with ⟨before, after, plain, rfl, rfl⟩
    rw [throughFirst?, List.append_assoc, List.singleton_append, cutAt?_append plain]
    rfl

theorem mem_of_throughFirst? {separator : Char} {text kept : List Char}
    (found : throughFirst? separator text = some kept) : separator ∈ kept := by
  rcases Option.map_eq_some_iff.mp found with ⟨⟨before, after⟩, -, rfl⟩
  simp

end Depot.Text

namespace Depot.Directory

open Memory

variable {lead key name : String}

/-! ## The child of a key -/

theorem child?_eq_some_iff :
    child? lead key = some name ↔
      ∃ rest, rest ≠ [] ∧ key.toList = lead.toList ++ rest ∧
        name = String.ofList ((Text.throughFirst? delimiter rest).getD rest) := by
  unfold child?
  cases dropped : Text.dropLead? lead.toList key.toList with
  | none =>
      simp only [reduceCtorEq, false_iff]
      intro given
      rcases given with ⟨rest, -, whole, -⟩
      rw [Text.dropLead?_eq_some_iff.mpr whole] at dropped
      cases dropped
  | some found =>
      rw [Text.dropLead?_eq_some_iff] at dropped
      constructor
      · intro child
        cases found with
        | nil => cases child
        | cons first rest =>
            cases child
            exact ⟨first :: rest, by simp, dropped, rfl⟩
      · intro given
        rcases given with ⟨rest, nonempty, whole, rfl⟩
        have same := List.append_cancel_left (dropped.symm.trans whole)
        subst same
        cases found with
        | nil => exact absurd rfl nonempty
        | cons first rest => rfl

theorem startsWith_of_child? (child : child? lead key = some name) :
    Text.startsWith lead.toList key.toList = true := by
  rcases child?_eq_some_iff.mp child with ⟨rest, -, whole, -⟩
  exact Text.startsWith_iff.mpr ⟨rest, whole⟩

/-- A child that is no directory is what follows the lead. -/
theorem child?_eq_some_file_iff (nonempty : name ≠ "") (plain : delimiter ∉ name.toList) :
    child? lead key = some name ↔ key = lead ++ name := by
  rw [child?_eq_some_iff, ← String.toList_inj, String.toList_append]
  constructor
  · intro given
    rcases given with ⟨rest, -, whole, isName⟩
    rw [whole, isName, String.toList_ofList]
    cases found : Text.throughFirst? delimiter rest with
    | none => rfl
    | some kept =>
        rw [isName, found, String.toList_ofList] at plain
        exact absurd (Text.mem_of_throughFirst? found) plain
  · intro whole
    refine ⟨name.toList, ?_, whole, ?_⟩
    · rwa [ne_eq, String.toList_eq_nil_iff]
    · rw [Text.throughFirst?_eq_none_iff.mpr plain]
      exact String.ofList_toList.symm

/-- A child that is a directory is that of the keys that start with it behind the lead. -/
theorem child?_eq_some_directory_iff (plain : delimiter ∉ name.toList) :
    child? lead key = some (name ++ "/") ↔
      Text.startsWith (lead ++ name ++ "/").toList key.toList = true := by
  rw [child?_eq_some_iff, Text.startsWith_iff]
  simp only [String.toList_append, Text.slash_toList, ← String.toList_inj, String.toList_ofList]
  constructor
  · intro given
    rcases given with ⟨rest, -, whole, isName⟩
    cases found : Text.throughFirst? delimiter rest with
    | none =>
        -- Without a delimiter the child is the whole rest, but it ends in one.
        have absent : delimiter ∉ rest := Text.throughFirst?_eq_none_iff.mp found
        rw [found, Option.getD_none] at isName
        rw [← isName] at absent
        exact absurd (by simp) absent
    | some kept =>
        rcases Text.throughFirst?_eq_some_iff.mp found with ⟨before, after, -, -, isRest⟩
        rw [found, Option.getD_some] at isName
        exact ⟨after, by rw [whole, isRest, ← isName]; simp⟩
  · intro given
    rcases given with ⟨after, whole⟩
    have found : Text.throughFirst? delimiter (name.toList ++ [delimiter] ++ after) =
        some (name.toList ++ [delimiter]) :=
      Text.throughFirst?_eq_some_iff.mpr ⟨name.toList, after, plain, rfl, rfl⟩
    exact ⟨name.toList ++ [delimiter] ++ after, by simp, by simp [whole], by rw [found]; rfl⟩

/-- A child is a plain name, or one with a delimiter behind it. -/
theorem exists_name_of_child? {child : String} (found : child? lead key = some child) :
    ∃ name, delimiter ∉ name.toList ∧ (child = name ∨ child = name ++ "/") := by
  rcases child?_eq_some_iff.mp found with ⟨rest, -, -, isChild⟩
  cases through : Text.throughFirst? delimiter rest with
  | none =>
      have plain := Text.throughFirst?_eq_none_iff.mp through
      exact ⟨String.ofList rest, by simpa using plain, .inl (by rw [isChild, through]; rfl)⟩
  | some kept =>
      rcases Text.throughFirst?_eq_some_iff.mp through with ⟨before, after, plain, isKept, -⟩
      refine ⟨String.ofList before, by simpa using plain, .inr ?_⟩
      rw [isChild, through, Option.getD_some, isKept, String.ofList_append]
      rfl

/-- What a key is rolled up into belongs to the same child. -/
theorem child?_text_ofKey (lead key : String) :
    child? lead (Entry.ofKey lead (some delimiterText) key).text = child? lead key := by
  unfold Entry.ofKey
  have notEmpty : delimiterText ≠ "" := by decide
  have isDelimiter : delimiterText.toList = [delimiter] := by decide
  simp only [notEmpty, if_false, isDelimiter]
  cases dropped : Text.dropLead? lead.toList key.toList with
  | none => rfl
  | some rest =>
      simp only
      cases cut : Text.cutText? [delimiter] rest with
      | none => rfl
      | some pieces =>
          rcases pieces with ⟨before, after⟩
          have kept : Text.throughFirst? delimiter rest = some (before ++ [delimiter]) := by
            rw [Text.throughFirst?_eq_map, cut]
            rfl
          have keptAgain : Text.throughFirst? delimiter (before ++ [delimiter]) =
              some (before ++ [delimiter]) := by
            have cutAgain := Text.cutText?_append cut []
            rw [List.append_nil] at cutAgain
            rw [Text.throughFirst?_eq_map, cutAgain]
            rfl
          have ofText : child? lead (lead ++ String.ofList before ++ delimiterText) =
              some (String.ofList (before ++ [delimiter])) := by
            apply child?_eq_some_iff.mpr
            exact ⟨before ++ [delimiter], by simp, by simp [isDelimiter], by rw [keptAgain]; rfl⟩
          have ofKey : child? lead key = some (String.ofList (before ++ [delimiter])) := by
            apply child?_eq_some_iff.mpr
            refine ⟨rest, ?_, Text.dropLead?_eq_some_iff.mp dropped, by rw [kept]; rfl⟩
            intro same
            subst same
            simpa using Text.cutText?_eq_some cut
          rw [ofKey]
          exact ofText

/-! ## The children of a directory -/

theorem startsWith_filterLead {store : Store}
    (starts : Text.startsWith lead.toList key.toList = true) :
    Text.startsWith (store.filterLead lead).toList key.toList = true := by
  rw [Store.filterLead]
  split
  · rcases Text.trimEnd_append_replicate '/' lead.toList with ⟨count, whole⟩
    rcases Text.startsWith_iff.mp starts with ⟨rest, isKey⟩
    rw [String.toList_ofList, Text.startsWith_iff]
    exact ⟨List.replicate count '/' ++ rest, by rw [isKey, ← List.append_assoc, ← whole]⟩
  · exact starts

/-- A listing has the children of all stored keys. -/
theorem mem_children_of_entries {store : Store} :
    (∃ entry ∈ store.entriesBehind lead (some delimiterText) none,
        child? lead entry.text = some name) ↔
      ∃ key ∈ store.keys, child? lead key = some name := by
  constructor
  · intro given
    rcases given with ⟨entry, member, child⟩
    rcases Store.mem_entriesBehind.mp member with ⟨key, stored, -, -, rfl⟩
    rw [child?_text_ofKey] at child
    exact ⟨key, stored, child⟩
  · intro given
    rcases given with ⟨key, stored, child⟩
    refine ⟨Entry.ofKey lead (some delimiterText) key, ?_, ?_⟩
    · apply Store.mem_entriesBehind.mpr
      exact ⟨key, stored, startsWith_filterLead (startsWith_of_child? child), rfl, rfl⟩
    · rw [child?_text_ofKey, child]

/-- The pages of a listing hold the texts of its entries. -/
theorem mem_entries_of_collected {pages : List ListingPage} {entries : List Entry} {text : String}
    (keys : pages.flatMap ListingPage.keys = entries.filterMap Entry.key?)
    (commonLeads : pages.flatMap ListingPage.commonLeads = entries.filterMap Entry.rolledUp?) :
    text ∈ pages.flatMap ListingPage.entries ↔ ∃ entry ∈ entries, entry.text = text := by
  have parts : text ∈ pages.flatMap ListingPage.entries ↔
      text ∈ pages.flatMap ListingPage.keys ∨ text ∈ pages.flatMap ListingPage.commonLeads := by
    simp only [ListingPage.entries, List.mem_flatMap, List.mem_append]
    constructor
    · intro given
      rcases given with ⟨page, member, inKeys | inLeads⟩
      · exact .inl ⟨page, member, inKeys⟩
      · exact .inr ⟨page, member, inLeads⟩
    · intro given
      rcases given with ⟨page, member, inKeys⟩ | ⟨page, member, inLeads⟩
      · exact ⟨page, member, .inl inKeys⟩
      · exact ⟨page, member, .inr inLeads⟩
  rw [parts, keys, commonLeads, List.mem_filterMap, List.mem_filterMap]
  constructor
  · intro given
    rcases given with ⟨entry, member, found⟩ | ⟨entry, member, found⟩
    · cases entry <;> cases found
      exact ⟨_, member, rfl⟩
    · cases entry <;> cases found
      exact ⟨_, member, rfl⟩
  · intro given
    rcases given with ⟨entry, member, rfl⟩
    cases entry with
    | key text => exact .inl ⟨_, member, rfl⟩
    | rolledUp text => exact .inr ⟨_, member, rfl⟩

/-- Listing a directory changes nothing and gives the children of the stored keys, unless there are
too many keys for the pages that may come. -/
theorem yields_children (before : Watched) (limit : Nat) (key : ObjectKey) :
    ∃ value, Yields (children limit key) before value before ∧
      (∀ error, value = .error error →
        error = .endlessListing limit ∧ limit ≤ before.store.keys.length) ∧
      ∀ names, value = .ok names → names = sortedDistinct
        (before.store.keys.filterMap (child? key.trimDirectory.asDirectory.text)) := by
  rcases yields_collectPages before key.trimDirectory.asDirectory.text (some delimiterText)
    limit limit none trivial with ⟨value, collected, endless, whole⟩
  cases value with
  | error error =>
      refine ⟨.error error, collected.stopping, ?_, by simp⟩
      intro _ same
      cases same
      rcases endless error rfl with ⟨isEndless, many⟩
      exact ⟨isEndless, le_trans many (Store.length_entriesBehind_le _ _ _ _)⟩
  | ok pages =>
      refine ⟨.ok _, collected.reading (Yields.ofPure _), by simp, ?_⟩
      intro _ same
      cases same
      rcases whole pages rfl with ⟨keys, commonLeads⟩
      apply sortedDistinct_congr
      intro name
      rw [List.mem_filterMap, List.mem_filterMap, ← mem_children_of_entries]
      constructor
      · intro given
        rcases given with ⟨text, member, child⟩
        rcases (mem_entries_of_collected keys commonLeads).mp member with ⟨entry, among, rfl⟩
        exact ⟨entry, among, child⟩
      · intro given
        rcases given with ⟨entry, among, child⟩
        refine ⟨entry.text, ?_, child⟩
        exact (mem_entries_of_collected keys commonLeads).mpr ⟨entry, among, rfl⟩

end Depot.Directory
