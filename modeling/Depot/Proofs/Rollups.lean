import Mathlib.Data.String.Basic
import Depot.Memory.Listing

/-!
Roll-ups and the order of keys. The keys that start with a text are neighbours in the order of keys,
so what is rolled up into one entry is a run of neighbours, and the entries come in the order of
their texts. A continuation is the text of an entry, and the keys behind it are those whose own
entries come after it.
-/

namespace Depot.Text

/-! ## Texts with one lead -/

theorem startsWith_iff_initial {lead text : List Char} :
    startsWith lead text = true ↔ lead <+: text := by
  rw [startsWith_iff]
  constructor
  · intro given
    rcases given with ⟨rest, rfl⟩
    exact List.prefix_append lead rest
  · intro given
    rcases given with ⟨rest, rfl⟩
    exact ⟨rest, rfl⟩

theorem le_of_startsWith {lead text : String}
    (starts : startsWith lead.toList text.toList = true) : lead ≤ text := by
  rcases startsWith_iff.mp starts with ⟨rest, whole⟩
  rw [String.le_iff_toList_le, whole, ← not_lt]
  exact (List.prefix_append lead.toList rest).le

theorem initial_of_between {lead middle rest : List Char} (notBefore : ¬middle < lead)
    (before : middle < lead ++ rest) : lead <+: middle := by
  induction lead generalizing middle with
  | nil => exact List.nil_prefix
  | cons first lead induction =>
      cases middle with
      | nil => exact absurd (List.nil_lt_cons first lead) notBefore
      | cons head middle =>
          rw [List.cons_append, List.cons_lt_cons_iff] at before
          rw [List.cons_lt_cons_iff] at notBefore
          rcases before with less | ⟨rfl, before⟩
          · exact absurd (.inl less) notBefore
          · have further := induction (fun less => notBefore (.inr ⟨rfl, less⟩)) before
            exact List.cons_prefix_cons.mpr ⟨rfl, further⟩

/-- Whatever lies between a lead and a text that starts with it starts with it too. -/
theorem startsWith_of_between {lead middle text : String}
    (starts : startsWith lead.toList text.toList = true) (notBefore : lead ≤ middle)
    (before : middle < text) : startsWith lead.toList middle.toList = true := by
  rcases startsWith_iff.mp starts with ⟨rest, whole⟩
  rw [String.lt_iff_toList_lt, whole] at before
  rw [String.le_iff_toList_le] at notBefore
  exact startsWith_iff_initial.mpr (initial_of_between (not_lt.mpr notBefore) before)

/-! ## The first place of a needle -/

theorem cutText?_of_lead {needle text after : List Char}
    (found : dropLead? needle text = some after) : cutText? needle text = some ([], after) := by
  cases text <;> simp [cutText?, cutBehind?, found]

/-- Where a text is cut does not depend on what comes after the needle. -/
theorem cutText?_append {needle text before after : List Char}
    (cut : cutText? needle text = some (before, after)) (other : List Char) :
    cutText? needle (before ++ needle ++ other) = some (before, other) := by
  induction text generalizing before with
  | nil =>
      simp only [cutText?, cutBehind?, Option.map_eq_some_iff, Prod.mk.injEq] at cut
      rcases cut with ⟨_, -, rfl, -⟩
      apply cutText?_of_lead
      rw [dropLead?_eq_some_iff]
      rfl
  | cons first text induction =>
      cases found : dropLead? needle (first :: text) with
      | some rest =>
          simp only [cutText?_of_lead found, Option.some.injEq, Prod.mk.injEq] at cut
          rcases cut with ⟨rfl, rfl⟩
          apply cutText?_of_lead
          rw [dropLead?_eq_some_iff]
          rfl
      | none =>
          simp only [cutText?_cons found, Option.map_eq_some_iff, Prod.mk.injEq,
            Prod.exists] at cut
          rcases cut with ⟨shorter, _, later, rfl, rfl⟩
          have further := induction later
          -- The needle is no longer than what comes before the other rest, so it would already
          -- have stood at the start of the text.
          have absent : dropLead? needle (first :: (shorter ++ needle ++ other)) = none := by
            cases early : dropLead? needle (first :: (shorter ++ needle ++ other)) with
            | none => rfl
            | some rest =>
                exfalso
                have atStart : needle <+: first :: (shorter ++ needle ++ other) :=
                  ⟨rest, (dropLead?_eq_some_iff.mp early).symm⟩
                have before : first :: (shorter ++ needle) <+:
                    first :: (shorter ++ needle ++ other) := ⟨other, rfl⟩
                have short : needle <+: first :: (shorter ++ needle) := by
                  apply List.prefix_of_prefix_length_le atStart before
                  simp only [List.length_cons, List.length_append]
                  omega
                have there : startsWith needle (first :: text) = true := by
                  rw [startsWith_iff_initial, cutText?_eq_some later]
                  exact short.trans (List.prefix_append _ _)
                rw [startsWith, found] at there
                cases there
          rw [List.cons_append, List.cons_append, cutText?_cons absent, further]
          rfl

end Depot.Text

namespace Depot.Memory.Entry

variable {lead : String} {delimiter : Option String} {key text left right : String}

/-! ## The entry of a key -/

theorem ofKey_eq_key (found : ofKey lead delimiter key = .key text) : text = key := by
  unfold ofKey at found
  split at found
  · cases found
    rfl
  · split at found
    · cases found
      rfl
    · split at found
      · cases found
        rfl
      · split at found
        · cases found
          rfl
        · cases found

/-- A key that is rolled up starts with the roll-up, and so does nothing but what is rolled up into
the same. -/
theorem ofKey_eq_rolledUp (found : ofKey lead delimiter key = .rolledUp text) :
    Text.startsWith text.toList key.toList = true ∧
      ∀ other : String, Text.startsWith text.toList other.toList = true →
        ofKey lead delimiter other = .rolledUp text := by
  unfold ofKey at found
  split at found
  · cases found
  next separator =>
    split at found
    · cases found
    next something =>
      split at found
      · cases found
      next rest dropped =>
        split at found
        · cases found
        next before after cut =>
          cases found
          constructor
          · rw [Text.dropLead?_eq_some_iff] at dropped
            rw [dropped, Text.cutText?_eq_some cut, Text.startsWith_iff]
            exact ⟨after, by simp⟩
          · intro other starts
            rcases Text.startsWith_iff.mp starts with ⟨further, whole⟩
            have dropped : Text.dropLead? lead.toList other.toList =
                some (before ++ separator.toList ++ further) := by
              rw [Text.dropLead?_eq_some_iff, whole]
              simp
            simp only [ofKey, something, if_false, dropped, Text.cutText?_append cut]

theorem startsWith_text_ofKey (lead : String) (delimiter : Option String) (key : String) :
    Text.startsWith (ofKey lead delimiter key).text.toList key.toList = true := by
  cases found : ofKey lead delimiter key with
  | key text =>
      rw [ofKey_eq_key found]
      exact Text.startsWith_iff.mpr ⟨[], by simp [Entry.text]⟩
  | rolledUp text => exact (ofKey_eq_rolledUp found).1

/-- The text of an entry has that entry. -/
@[simp] theorem ofKey_text_ofKey (lead : String) (delimiter : Option String) (key : String) :
    ofKey lead delimiter (ofKey lead delimiter key).text = ofKey lead delimiter key := by
  cases found : ofKey lead delimiter key with
  | key text =>
      cases ofKey_eq_key found
      exact found
  | rolledUp text =>
      apply (ofKey_eq_rolledUp found).2
      exact Text.startsWith_iff.mpr ⟨[], by simp [Entry.text]⟩

theorem ofKey_eq_of_text_eq
    (same : (ofKey lead delimiter left).text = (ofKey lead delimiter right).text) :
    ofKey lead delimiter left = ofKey lead delimiter right := by
  rw [← ofKey_text_ofKey lead delimiter left, same, ofKey_text_ofKey]

theorem text_ofKey_le (lead : String) (delimiter : Option String) (key : String) :
    (ofKey lead delimiter key).text ≤ key :=
  Text.le_of_startsWith (startsWith_text_ofKey lead delimiter key)

/-- A text between the entry of a key and the key has the same entry. -/
theorem ofKey_eq_of_between (notBefore : (ofKey lead delimiter key).text ≤ text)
    (before : text < key) : ofKey lead delimiter text = ofKey lead delimiter key := by
  have starts := Text.startsWith_of_between (startsWith_text_ofKey lead delimiter key) notBefore
    before
  cases found : ofKey lead delimiter key with
  | key whole =>
      rw [found, Entry.text, ofKey_eq_key found] at notBefore
      exact absurd before (not_lt.mpr notBefore)
  | rolledUp whole =>
      rw [found] at starts
      exact (ofKey_eq_rolledUp found).2 text starts

/-- Entries come in the order of their keys. -/
theorem text_ofKey_mono (ordered : left ≤ right) :
    (ofKey lead delimiter left).text ≤ (ofKey lead delimiter right).text := by
  rcases lt_or_ge left (ofKey lead delimiter right).text with before | notBefore
  · exact le_trans (text_ofKey_le lead delimiter left) (le_of_lt before)
  · rcases lt_or_eq_of_le ordered with less | same
    · rw [ofKey_eq_of_between notBefore less]
    · rw [same]

end Depot.Memory.Entry

namespace Depot.Memory.Store

variable {lead : String} {delimiter : Option String} {token key : String}

/-! ## What lies behind a continuation -/

theorem coversRollUp_iff :
    coversRollUp lead delimiter token = true ↔
      ∃ text, Entry.ofKey lead delimiter token = .rolledUp text := by
  unfold coversRollUp Entry.ofKey
  cases delimiter with
  | none => simp
  | some separator =>
      by_cases nothing : separator = ""
      · simp [nothing]
      · cases dropped : Text.dropLead? lead.toList token.toList with
        | none => simp [nothing]
        | some rest =>
            cases cut : Text.cutText? separator.toList rest <;> simp [nothing, cut, Text.contains]

/-- Behind the text of an entry are the keys whose entries come after it. -/
theorem isBehind_some_iff (own : (Entry.ofKey lead delimiter token).text = token) :
    isBehind lead delimiter (some token) key = true ↔
      token < (Entry.ofKey lead delimiter key).text := by
  simp only [isBehind, Bool.and_eq_true, decide_eq_true_eq, Bool.not_eq_true',
    Bool.and_eq_false_imp]
  constructor
  · intro given
    rcases given with ⟨before, notCovered⟩
    apply lt_of_not_ge
    intro notBefore
    -- The token lies between the entry of the key and the key, so the key is rolled up into it.
    have same := Entry.ofKey_eq_of_between notBefore before
    cases found : Entry.ofKey lead delimiter key with
    | key text =>
        rw [found, Entry.text, Entry.ofKey_eq_key found] at notBefore
        exact absurd before (not_lt.mpr notBefore)
    | rolledUp text =>
        rw [same, found, Entry.text] at own
        have covered := notCovered (coversRollUp_iff.mpr ⟨text, same.trans found⟩)
        rw [← own, (Entry.ofKey_eq_rolledUp found).1] at covered
        cases covered
  · intro before
    refine ⟨lt_of_lt_of_le before (Entry.text_ofKey_le lead delimiter key), ?_⟩
    intro covers
    rcases coversRollUp_iff.mp covers with ⟨text, found⟩
    rw [found, Entry.text] at own
    subst own
    apply Bool.eq_false_iff.mpr
    intro starts
    rw [(Entry.ofKey_eq_rolledUp found).2 key starts, Entry.text] at before
    exact lt_irrefl _ before

end Depot.Memory.Store
