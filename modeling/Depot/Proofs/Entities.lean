import Mathlib.Data.List.Basic
import Depot.S3.Markup

/-!
Entities, read one kind after the other, are read as by one walk from left to right that turns each
entity into its character and never looks at that character again. Every entity is an ampersand and a
name without special characters. So what one kind leaves behind is no part of an entity, as long as
it is no ampersand, and the ampersand is the last kind to be read. Text that is written with entities
is therefore read as it was.
-/

namespace Depot

namespace Text

/-- To replace a single character is to replace it wherever it stands. -/
theorem replaceAll_singleton (sought : Char) (replacement text : List Char) :
    replaceAll [sought] replacement text =
      text.flatMap fun character => if character = sought then replacement else [character] := by
  induction text with
  | nil => exact replaceAll_nil _ _
  | cons first text induction =>
      rw [List.flatMap_cons, ← induction]
      by_cases here : first = sought
      · subst here
        rw [if_pos rfl, replaceAll_of_lead (dropLead?_cons_self first [] text)]
      · rw [if_neg here, replaceAll_of_no_lead (dropLead?_cons_of_ne (Ne.symm here) [] text),
          List.singleton_append]

end Text

namespace S3.Markup

/-! ## Entities -/

/-- How a character is written. -/
def entity (character : Char) : List Char :=
  if character = '&' then "&amp;".toList
  else if character = '<' then "&lt;".toList
  else if character = '>' then "&gt;".toList
  else if character = '"' then "&quot;".toList
  else if character = '\'' then "&apos;".toList
  else [character]

/-- The characters that are written as entities, in the order in which these are read. -/
def special : List Char := ['<', '>', '"', '\'', '&']

variable {character other : Char} {kinds : List Char}

theorem mem_special : character ∈ special ↔ character = '<' ∨ character = '>' ∨ character = '"' ∨
    character = '\'' ∨ character = '&' := by
  simp [special]

theorem entity_ne_nil (character : Char) : entity character ≠ [] := by
  unfold entity
  repeat' split
  all_goals simp

/-- An entity is an ampersand and a name, in which nothing is special. -/
theorem entity_of_special (isSpecial : character ∈ special) :
    ∃ name, entity character = '&' :: name ∧ ∀ letter ∈ name, letter ∉ special := by
  rcases mem_special.mp isSpecial with rfl | rfl | rfl | rfl | rfl
  · exact ⟨['l', 't', ';'], rfl, by simp [special]⟩
  · exact ⟨['g', 't', ';'], rfl, by simp [special]⟩
  · exact ⟨['q', 'u', 'o', 't', ';'], rfl, by simp [special]⟩
  · exact ⟨['a', 'p', 'o', 's', ';'], rfl, by simp [special]⟩
  · exact ⟨['a', 'm', 'p', ';'], rfl, by simp [special]⟩

theorem entity_of_not_special (notSpecial : character ∉ special) :
    entity character = [character] := by
  simp only [mem_special, not_or] at notSpecial
  rcases notSpecial with ⟨notLess, notMore, notQuote, notApostrophe, notAmpersand⟩
  simp [entity, notLess, notMore, notQuote, notApostrophe, notAmpersand]

/-- No entity is the beginning of another one. -/
theorem dropLead?_entity (isSpecial : character ∈ special) (otherSpecial : other ∈ special)
    (different : character ≠ other) (rest : List Char) :
    Text.dropLead? (entity character) (entity other ++ rest) = none := by
  rcases mem_special.mp isSpecial with rfl | rfl | rfl | rfl | rfl <;>
    rcases mem_special.mp otherSpecial with rfl | rfl | rfl | rfl | rfl <;>
    first | exact absurd rfl different | rfl

/-! ## One walk -/

/-- Which of some characters has its entity at the start of a text, and the text behind it. -/
def leading? (kinds text : List Char) : Option (Char × List Char) :=
  kinds.findSome? fun character =>
    (Text.dropLead? (entity character) text).map fun rest => (character, rest)

theorem leading?_eq_some {text rest : List Char} (found : leading? kinds text = some (character, rest)) :
    character ∈ kinds ∧ text = entity character ++ rest := by
  rcases List.exists_of_findSome?_eq_some found with ⟨kind, isKind, stands⟩
  simp only [Option.map_eq_some_iff, Prod.mk.injEq] at stands
  rcases stands with ⟨_, stands, rfl, rfl⟩
  exact ⟨isKind, Text.dropLead?_eq_some_iff.mp stands⟩

theorem leading?_eq_none_iff {text : List Char} : leading? kinds text = none ↔
    ∀ character ∈ kinds, Text.dropLead? (entity character) text = none := by
  simp [leading?, List.findSome?_eq_none_iff]

theorem leading?_append (kinds : List Char) (character : Char) (text : List Char) :
    leading? (kinds ++ [character]) text = (leading? kinds text).or
      ((Text.dropLead? (entity character) text).map fun rest => (character, rest)) := by
  rw [leading?, List.findSome?_append, List.findSome?_singleton]
  rfl

theorem length_of_leading? {text rest : List Char}
    (found : leading? kinds text = some (character, rest)) : rest.length < text.length := by
  have positive := List.length_pos_iff.mpr (entity_ne_nil character)
  rw [(leading?_eq_some found).2, List.length_append]
  omega

/-- The text with the entities of some characters read, in one walk from left to right. What was
read is not looked at again. -/
def decode (kinds : List Char) : List Char → List Char
  | [] => []
  | first :: text =>
      match found : leading? kinds (first :: text) with
      | some (character, rest) =>
          have := length_of_leading? found
          character :: decode kinds rest
      | none => first :: decode kinds text
termination_by text => text.length
decreasing_by all_goals simp_all

@[simp] theorem decode_nil (kinds : List Char) : decode kinds [] = [] := by rw [decode]

theorem decode_of_leading {text rest : List Char}
    (found : leading? kinds text = some (character, rest)) :
    decode kinds text = character :: decode kinds rest := by
  cases text with
  | nil => exact absurd (length_of_leading? found) (Nat.not_lt_zero _)
  | cons first text =>
      rw [decode]
      split <;> simp_all

theorem decode_of_none {first : Char} {text : List Char}
    (nothing : leading? kinds (first :: text) = none) :
    decode kinds (first :: text) = first :: decode kinds text := by
  rw [decode]
  split <;> simp_all

@[simp] theorem decode_no_kinds (text : List Char) : decode [] text = text := by
  induction text with
  | nil => exact decode_nil []
  | cons first text induction => rw [decode_of_none rfl, induction]

/-! ## One kind after the other -/

/-- Where no entity is read, a lead stands as before if its tail does behind it. -/
theorem dropLead?_cons_decode {letter first : Char} {lead text : List Char}
    (nothing : leading? kinds (first :: text) = none)
    (keeps : Text.dropLead? lead (decode kinds text) =
      (Text.dropLead? lead text).map (decode kinds)) :
    Text.dropLead? (letter :: lead) (decode kinds (first :: text)) =
      (Text.dropLead? (letter :: lead) (first :: text)).map (decode kinds) := by
  rw [decode_of_none nothing]
  by_cases here : letter = first
  · subst here
    rw [Text.dropLead?_cons_self, Text.dropLead?_cons_self, keeps]
  · rw [Text.dropLead?_cons_of_ne here, Text.dropLead?_cons_of_ne here]
    rfl

section Kinds

variable (others : ∀ kind ∈ kinds, kind ∈ special ∧ kind ≠ '&')

include others

/-- What is read is no letter of a name, so names stand where they stood. -/
theorem dropLead?_decode {lead : List Char} (plain : ∀ letter ∈ lead, letter ∉ special)
    (text : List Char) :
    Text.dropLead? lead (decode kinds text) = (Text.dropLead? lead text).map (decode kinds) := by
  induction lead generalizing text with
  | nil => rfl
  | cons letter lead induction =>
      have notSpecial := plain letter List.mem_cons_self
      have plain := fun other member => plain other (List.mem_cons_of_mem _ member)
      cases text with
      | nil => rw [decode_nil]; rfl
      | cons first text =>
          cases found : leading? kinds (first :: text) with
          | some entry =>
              rcases entry with ⟨kind, rest⟩
              rcases leading?_eq_some found with ⟨isKind, stands⟩
              have isSpecial := (others kind isKind).1
              rcases entity_of_special isSpecial with ⟨name, isEntity, -⟩
              rw [isEntity] at stands
              have unread : letter ≠ first := fun same =>
                notSpecial (by rw [same, (List.cons.inj stands).1]; decide)
              have read : letter ≠ kind := fun same => notSpecial (same ▸ isSpecial)
              rw [decode_of_leading found, Text.dropLead?_cons_of_ne unread,
                Text.dropLead?_cons_of_ne read]
              rfl
          | none => exact dropLead?_cons_decode found (induction plain text)

variable (isSpecial : character ∈ special) (fresh : character ∉ kinds)

include isSpecial fresh

/-- Reading other kinds, of which the ampersand is none, makes no entity of a kind and destroys
none. -/
theorem dropLead?_entity_decode (text : List Char) :
    Text.dropLead? (entity character) (decode kinds text) =
      (Text.dropLead? (entity character) text).map (decode kinds) := by
  rcases entity_of_special isSpecial with ⟨name, isEntity, plain⟩
  cases text with
  | nil => rw [decode_nil, isEntity]; rfl
  | cons first text =>
      cases found : leading? kinds (first :: text) with
      | some entry =>
          rcases entry with ⟨kind, rest⟩
          rcases leading?_eq_some found with ⟨isKind, stands⟩
          rcases others kind isKind with ⟨kindSpecial, notAmpersand⟩
          have different : character ≠ kind := fun same => fresh (same ▸ isKind)
          rw [decode_of_leading found, stands, dropLead?_entity isSpecial kindSpecial different,
            isEntity, Text.dropLead?_cons_of_ne (Ne.symm notAmpersand)]
          rfl
      | none =>
          rw [isEntity]
          exact dropLead?_cons_decode found (dropLead?_decode others plain text)

/-- To read one more kind is to replace its entities in what the walk over the others gave. -/
theorem replaceAll_decode (text : List Char) :
    Text.replaceAll (entity character) [character] (decode kinds text) =
      decode (kinds ++ [character]) text := by
  rcases entity_of_special isSpecial with ⟨name, isEntity, -⟩
  have keeps := dropLead?_entity_decode others isSpecial fresh
  have joined := leading?_append kinds character
  rw [isEntity] at keeps joined ⊢
  -- The walk over all the kinds goes by entities; the other walk follows it.
  fun_induction decode (kinds ++ [character]) text with
  | case1 => rw [decode_nil, Text.replaceAll_nil]
  | case2 first text kind rest found shorter induction =>
      rw [joined] at found
      cases early : leading? kinds (first :: text) with
      | some entry =>
          rw [early] at found
          cases found
          have notAmpersand := (others kind (leading?_eq_some early).1).2
          rw [decode_of_leading early, Text.replaceAll_of_no_lead
            (Text.dropLead?_cons_of_ne (Ne.symm notAmpersand) name _), induction]
      | none =>
          rw [early, Option.none_or, Option.map_eq_some_iff] at found
          rcases found with ⟨_, stands, isLast⟩
          cases isLast
          have begins := keeps (first :: text)
          rw [stands] at begins
          rw [Text.replaceAll_of_lead begins, induction, List.singleton_append]
  | case3 first text nothing induction =>
      rw [joined, Option.or_eq_none_iff, Option.map_eq_none_iff] at nothing
      have begins := keeps (first :: text)
      rw [nothing.2, decode_of_none nothing.1, Option.map_none] at begins
      rw [decode_of_none nothing.1, Text.replaceAll_of_no_lead begins, induction]

end Kinds

/-- Reading one kind after the other is one walk over the text. -/
theorem unescape_eq_decode (text : String) :
    unescape text = String.ofList (decode special text.toList) := by
  have replaced : unescape text = String.ofList
      (Text.replaceAll (entity '&') ['&'] (Text.replaceAll (entity '\'') ['\'']
        (Text.replaceAll (entity '"') ['"'] (Text.replaceAll (entity '>') ['>']
          (Text.replaceAll (entity '<') ['<'] (decode [] text.toList)))))) := by
    rw [decode_no_kinds]
    rfl
  rw [replaced, replaceAll_decode (by simp) (by decide) (by decide),
    replaceAll_decode (by simp [special]) (by decide) (by decide),
    replaceAll_decode (by simp [special]) (by decide) (by decide),
    replaceAll_decode (by simp [special]) (by decide) (by decide),
    replaceAll_decode (by simp [special]) (by decide) (by decide)]
  rfl

/-! ## Written and read -/

theorem escape_toList (text : String) : (escape text).toList = text.toList.flatMap entity :=
  String.toList_ofList

/-- Writing is to write one kind after the other as entities, the ampersand first. -/
theorem escape_eq_replaceAll (text : String) : (escape text).toList =
    Text.replaceAll ['\''] (entity '\'') (Text.replaceAll ['"'] (entity '"')
      (Text.replaceAll ['>'] (entity '>') (Text.replaceAll ['<'] (entity '<')
        (Text.replaceAll ['&'] (entity '&') text.toList)))) := by
  simp only [Text.replaceAll_singleton, List.flatMap_assoc, escape_toList]
  apply List.flatMap_congr
  intro character _
  by_cases isSpecial : character ∈ special
  · rcases mem_special.mp isSpecial with rfl | rfl | rfl | rfl | rfl <;> rfl
  · have asItself := entity_of_not_special isSpecial
    simp only [mem_special, not_or] at isSpecial
    rw [asItself]
    simp [isSpecial]

theorem leading?_entity (isSpecial : character ∈ special) (rest : List Char) :
    leading? special (entity character ++ rest) = some (character, rest) := by
  rcases mem_special.mp isSpecial with rfl | rfl | rfl | rfl | rfl <;> rfl

theorem decode_flatMap_entity (text : List Char) : decode special (text.flatMap entity) = text := by
  induction text with
  | nil => exact decode_nil special
  | cons first text induction =>
      rw [List.flatMap_cons]
      by_cases isSpecial : first ∈ special
      · rw [decode_of_leading (leading?_entity isSpecial _), induction]
      · have nothing : leading? special (first :: text.flatMap entity) = none := by
          rw [leading?_eq_none_iff]
          intro kind kindSpecial
          rcases entity_of_special kindSpecial with ⟨name, isEntity, -⟩
          have notAmpersand : '&' ≠ first := fun same => isSpecial (by rw [← same]; decide)
          rw [isEntity, Text.dropLead?_cons_of_ne notAmpersand]
        rw [entity_of_not_special isSpecial, List.singleton_append, decode_of_none nothing,
          induction]

/-- What was written with entities is read as it was, whatever it holds. -/
theorem unescape_escape (text : String) : unescape (escape text) = text := by
  rw [unescape_eq_decode, escape_toList, decode_flatMap_entity, String.ofList_toList]

/-- Text that is written with entities begins no tag. -/
theorem not_mem_escape (text : String) : '<' ∉ (escape text).toList := by
  rw [escape_toList, List.mem_flatMap]
  intro given
  rcases given with ⟨character, -, begins⟩
  by_cases isSpecial : character ∈ special
  · rcases mem_special.mp isSpecial with rfl | rfl | rfl | rfl | rfl <;>
      exact absurd begins (by decide)
  · rw [entity_of_not_special isSpecial, List.mem_singleton] at begins
    exact isSpecial (by rw [← begins]; decide)

/-- Writing turns each special character into its entity, and reading is one walk over the text,
which reads back whatever was written. -/
theorem unescape_reads_once (text : String) :
    unescape (escape text) = text ∧ unescape text = String.ofList (decode special text.toList) ∧
      (escape text).toList =
        Text.replaceAll ['\''] (entity '\'') (Text.replaceAll ['"'] (entity '"')
          (Text.replaceAll ['>'] (entity '>') (Text.replaceAll ['<'] (entity '<')
            (Text.replaceAll ['&'] (entity '&') text.toList)))) :=
  ⟨unescape_escape text, unescape_eq_decode text, escape_eq_replaceAll text⟩

/-! An ampersand that was read begins no entity with what follows it. -/

example : unescape "&amp;lt;&amp;amp;&&lt;" = "&lt;&amp;&<" := by cbv

end S3.Markup

end Depot
