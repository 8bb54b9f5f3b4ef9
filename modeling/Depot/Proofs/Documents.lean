import Depot.Proofs.BatchDeletion
import Depot.Proofs.Renderings
import Depot.Text.Utf8
import Std.Data.String.ToNat

/-!
The documents that requests carry name what they were made of. The client searches documents for
elements; searched in the same way, the body of a deletion names the keys that are to be deleted,
and the body of a completion the numbers and tags of the parts, in the order they were given.
-/

namespace Depot

namespace S3.Markup

variable {tag other : Tag} {body : List Piece} {text : String}

/-! ## Texts as pieces -/

theorem toList_element (tag : Tag) (isBody : text.toList = render body) :
    (element tag.name text).toList = render (tag.element body) := by
  rw [element, String.toList_append, String.toList_append, String.toList_ofList,
    String.toList_ofList, isBody, render_element, List.append_assoc]

theorem toList_escape (content : String) : (escape content).toList = render [.text content] := by
  rw [← render_text, String.toList_ofList]

theorem toList_join {Item : Type} (items : List Item) {text : Item → String}
    {pieces : Item → List Piece} (isText : ∀ item, (text item).toList = render (pieces item)) :
    (String.join (items.map text)).toList = render (items.flatMap pieces) := by
  rw [String.toList_join, List.flatMap_map, render, List.flatMap_assoc]
  exact List.flatMap_congr fun item _ => isText item

theorem escape_eq_self (plain : ∀ character ∈ text.toList, character ∉ special) :
    escape text = text := by
  rw [← String.toList_inj, escape_toList]
  have asItself : text.toList.flatMap entity = text.toList.flatMap fun character => [character] :=
    List.flatMap_congr fun character member => entity_of_not_special (plain character member)
  rw [asItself, List.flatMap_singleton']

theorem escape_repr (number : Nat) : escape (toString number) = toString number := by
  have noDigit : (special.all fun character => !character.isDigit) = true := rfl
  apply escape_eq_self
  intro character member isSpecial
  rw [Nat.toString_eq_repr, Nat.toList_repr] at member
  have isDigit := Nat.isDigit_of_mem_toDigits (by decide) (by decide) member
  have isNoDigit := List.all_eq_true.mp noDigit character isSpecial
  rw [isDigit] at isNoDigit
  cases isNoDigit

/-! ## Elements of items -/

section Items

variable {Item : Type} {items : List Item} {opening closing : List Piece}
  {front back : Item → List Piece} {written : Item → String}

theorem elementsIn_of_items (fronts : ∀ item, tag.Unused (front item))
    (backs : ∀ item, tag.Unused (back item)) (after : tag.Unused closing) :
    elementsIn tag.name (render (items.flatMap (fun item =>
      front item ++ (tag.element [.text (written item)] ++ back item)) ++ closing)) =
        items.map fun item => render [.text (written item)] := by
  induction items with
  | nil =>
      have passed := elementsIn_append_of_unused after []
      rw [List.append_nil] at passed
      exact passed.trans (elementsIn_eq tag.name [])
  | cons item items induction =>
      simp only [List.flatMap_cons, List.append_assoc, render_append, List.map_cons] at induction ⊢
      rw [elementsIn_append_of_unused (fronts item), elementsIn_element unused_text,
        elementsIn_append_of_unused (backs item), induction]

/-- Texts that stand in items, one element in each, are found in the order of the items. -/
theorem elements_of_items {document : String}
    (isDocument : document.toList = render (opening ++ (items.flatMap (fun item =>
      front item ++ (tag.element [.text (written item)] ++ back item)) ++ closing)))
    (before : tag.Unused opening) (fronts : ∀ item, tag.Unused (front item))
    (backs : ∀ item, tag.Unused (back item)) (after : tag.Unused closing) :
    elements document tag.name = items.map fun item => escape (written item) := by
  rw [elements, isDocument, render_append, elementsIn_append_of_unused before,
    elementsIn_of_items fronts backs after, List.map_map]
  exact List.map_congr_left fun item _ => render_text (written item)

end Items

end S3.Markup

namespace S3.Document

open Markup

/-! ## Documents of requests -/

def deleteTag : Tag := ⟨"Delete", by decide⟩
def quietTag : Tag := ⟨"Quiet", by decide⟩
def objectTag : Tag := ⟨"Object", by decide⟩
def completionTag : Tag := ⟨"CompleteMultipartUpload", by decide⟩
def partTag : Tag := ⟨"Part", by decide⟩
def numberTag : Tag := ⟨"PartNumber", by decide⟩
def entityTag : Tag := ⟨"ETag", by decide⟩

def deletionPieces (keys : List String) : List Piece :=
  deleteTag.element (quietTag.element [.text "true"] ++
    keys.flatMap fun key => objectTag.element (keyTag.element [.text key]))

theorem toList_deletion (keys : List String) :
    (deletion keys).toList = render (deletionPieces keys) := by
  have quiet : (element "Quiet" "true").toList = render (quietTag.element [.text "true"]) :=
    toList_element quietTag (by decide)
  refine toList_element deleteTag ?_
  rw [String.toList_append, quiet, render_append]
  congr 1
  exact toList_join keys fun key =>
    toList_element objectTag (toList_element keyTag (toList_escape key))

def completionPieces (parts : List (Nat × String)) : List Piece :=
  completionTag.element (parts.flatMap fun (number, tag) =>
    partTag.element (numberTag.element [.text (toString number)] ++ entityTag.element [.text tag]))

theorem toList_completion (parts : List (Nat × String)) :
    (completion parts).toList = render (completionPieces parts) := by
  refine toList_element completionTag (toList_join parts fun (number, tag) => ?_)
  refine toList_element partTag ?_
  have isNumber : (toString number).toList = render [.text (toString number)] := by
    rw [← toList_escape, escape_repr]
  rw [String.toList_append, render_append]
  exact congrArg₂ _ (toList_element numberTag isNumber)
    (toList_element entityTag (toList_escape tag))

/-! ## What documents name -/

/-- The keys that a document names. -/
def namedKeys (document : String) : List String := (elements document "Key").map unescape

/-- The numbers of the parts that a document names. -/
def partNumbers (document : String) : List (Option Nat) :=
  (elements document "PartNumber").map String.toNat?

/-- The tags of the parts that a document names. -/
def partTexts (document : String) : List String := (elements document "ETag").map unescape

/-- The keys of a deletion are found as they were given, whatever they hold. -/
theorem namedKeys_deletion (keys : List String) : namedKeys (deletion keys) = keys := by
  have isDocument : (deletion keys).toList =
      render ([Piece.tag deleteTag] ++ quietTag.element [.text "true"] ++ (keys.flatMap (fun key =>
        [Piece.tag objectTag] ++ (keyTag.element [.text key] ++ [Piece.tag objectTag.closing])) ++
          [Piece.tag deleteTag.closing])) := by
    rw [toList_deletion, deletionPieces]
    simp [Tag.element]
  have found : elements (deletion keys) keyTag.name = keys.map escape :=
    elements_of_items isDocument (by decide) (fun _ => by decide) (fun _ => by decide) (by decide)
  change (elements (deletion keys) keyTag.name).map unescape = keys
  simp [found, Function.comp_def, unescape_escape]

variable (parts : List (Nat × String))

/-- The numbers of the parts of a completion are found as they were given. -/
theorem partNumbers_completion : partNumbers (completion parts) = parts.map (some ·.1) := by
  have isDocument : (completion parts).toList =
      render ([Piece.tag completionTag] ++ (parts.flatMap (fun part => [Piece.tag partTag] ++
        (numberTag.element [.text (toString part.1)] ++
          (entityTag.element [.text part.2] ++ [Piece.tag partTag.closing]))) ++
            [Piece.tag completionTag.closing])) := by
    rw [toList_completion, completionPieces]
    simp [Tag.element]
  have unused : ∀ part : Nat × String,
      numberTag.Unused (entityTag.element [.text part.2] ++ [Piece.tag partTag.closing]) := by
    intro part
    rw [unused_append, unused_element]
    exact ⟨⟨by decide, by decide, unused_text⟩, by decide⟩
  have found : elements (completion parts) numberTag.name =
      parts.map fun part => escape (toString part.1) :=
    elements_of_items isDocument (by decide) (fun _ => by decide) unused (by decide)
  change (elements (completion parts) numberTag.name).map String.toNat? = _
  rw [found, List.map_map]
  refine List.map_congr_left fun part _ => ?_
  rw [Function.comp, escape_repr]
  exact Nat.toNat?_repr part.1

/-- The tags of the parts of a completion are found as they were given, whatever they hold. -/
theorem partTexts_completion : partTexts (completion parts) = parts.map Prod.snd := by
  have isDocument : (completion parts).toList =
      render ([Piece.tag completionTag] ++ (parts.flatMap (fun part =>
        ([Piece.tag partTag] ++ numberTag.element [.text (toString part.1)]) ++
          (entityTag.element [.text part.2] ++ [Piece.tag partTag.closing])) ++
            [Piece.tag completionTag.closing])) := by
    rw [toList_completion, completionPieces]
    simp [Tag.element]
  have unused : ∀ part : Nat × String,
      entityTag.Unused ([Piece.tag partTag] ++ numberTag.element [.text (toString part.1)]) := by
    intro part
    rw [unused_append, unused_element]
    exact ⟨by decide, by decide, by decide, unused_text⟩
  have found : elements (completion parts) entityTag.name =
      parts.map fun part => escape part.2 :=
    elements_of_items isDocument (by decide) unused (fun _ => by decide) (by decide)
  change (elements (completion parts) entityTag.name).map unescape = _
  simp [found, Function.comp_def, unescape_escape]

end S3.Document

namespace S3

open Dialogue

/-! ## Requests of a deletion -/

/-- The number of batches is that of items by size, rounded up. -/
theorem length_batches {Item : Type} {size : Nat} (positive : 0 < size) (items : List Item) :
    (Client.batches size items).length = (items.length + (size - 1)) / size := by
  induction items using Client.batches.induct size with
  | case1 items done =>
      have empty : items = [] := by simpa [Nat.ne_of_gt positive] using done
      rw [Client.batches, if_pos done, empty, List.length_nil, List.length_nil, Nat.zero_add,
        Nat.div_eq_of_lt (Nat.sub_one_lt_of_lt positive)]
  | case2 items notDone induction =>
      have filled : 0 < items.length := by
        rw [List.length_pos_iff]
        simpa using (not_or.mp notDone).1
      rw [Client.batches, if_neg notDone, List.length_cons, induction, List.length_drop,
        Nat.div_eq_sub_div positive (a := items.length + (size - 1)) (by omega)]
      congr 1
      by_cases full : size ≤ items.length
      · congr 1
        omega
      · rw [Nat.div_eq_of_lt (by omega), Nat.div_eq_of_lt (by omega)]

/-- The keys that the body of a command names. -/
def Command.namedKeys (command : Command) : List String :=
  Document.namedKeys (Utf8.decode command.body)

theorem namedKeys_deletionCommand (keys : List ObjectKey) :
    (Client.deletionCommand keys).namedKeys = keys.map ObjectKey.text := by
  rw [Command.namedKeys, Client.deletionCommand, Utf8.decode_toUTF8, Document.namedKeys_deletion]

/-- The keys that the requests of exchanges name, from the first to the last. -/
def Exchanges.namedKeys (exchanges : Exchanges) : List String :=
  exchanges.flatMap fun asked => asked.1.command.namedKeys

section Deletion

variable {client : Client} {exchanges : Exchanges} {batches : List (List ObjectKey)}

theorem isPossible_of_succeeds (successes : ∀ asked ∈ exchanges, Succeeds asked.2) :
    exchanges.IsPossible := by
  intro asked member error isError
  rcases successes asked member with ⟨response, isResponse, -⟩
  rw [isResponse] at isError
  cases isError

theorem namedKeys_of_commands
    (commands : exchanges.map Sigma.fst =
      batches.map fun batch => ⟨client, Client.deletionCommand batch⟩) :
    exchanges.namedKeys = batches.flatten.map ObjectKey.text := by
  have inCommands : exchanges.namedKeys =
      (exchanges.map Sigma.fst).flatMap fun asked => asked.command.namedKeys := by
    rw [Exchanges.namedKeys, List.flatMap_map]
  rw [inCommands, commands, List.flatMap_map, List.map_flatten, List.flatMap]
  congr 1
  exact List.map_congr_left fun batch _ => namedKeys_deletionCommand batch

/-- Where every batch is deleted without errors, all batches are sent. -/
theorem goes_deleteMany_of_succeeds {keys : KeySet} {result : Except RepoError Unit}
    (goes : (client.deleteMany keys).run.Goes exchanges result)
    (successes : ∀ asked ∈ exchanges, Succeeds asked.2) (noErrors : exchanges.errors = []) :
    result = .ok () ∧ exchanges.map Sigma.fst =
      (Client.batches Client.batchSize keys.toKeys).map fun batch =>
        ⟨client, Client.deletionCommand batch⟩ := by
  have nothing : exchanges.failures = [] := by rw [Exchanges.failures, noErrors, List.filterMap_nil]
  rcases Client.goes_batches_of_deleteMany goes with ⟨error | missing, going, rfl⟩
  · rcases (Client.goes_deleteBatches_error (isPossible_of_succeeds successes) going).1 with
      ⟨asked, member, noSuccess⟩ | ⟨failure, member, -⟩
    · exact absurd (successes asked member) noSuccess
    · rw [nothing] at member
      cases member
  · rcases Client.goes_deleteBatches_ok going with ⟨commands, -, -, rfl⟩
    rw [nothing]
    exact ⟨rfl, commands⟩

end Deletion

/-- A document that asks to delete keys names these keys, in order, and one that completes an upload
names the numbers and the tags of its parts, in order, whatever the keys and tags hold. So where
every response to a deletion is a success without errors, the requests are deletions of at most a
thousand keys each, as few as that allows, which together name every key of the set, once and in
increasing order, and nothing else. -/
theorem documents_name_what_was_given :
    (∀ keys : List String, Document.namedKeys (Document.deletion keys) = keys) ∧
    (∀ parts : List (Nat × String),
      Document.partNumbers (Document.completion parts) = parts.map (some ·.1) ∧
        Document.partTexts (Document.completion parts) = parts.map Prod.snd) ∧
    ∀ (client : Client) (keys : KeySet) (exchanges : Exchanges) (result : Except RepoError Unit),
      (client.deleteMany keys).run.Goes exchanges result →
      (∀ asked ∈ exchanges, Succeeds asked.2) → exchanges.errors = [] →
        result = .ok () ∧
        (∀ asked ∈ exchanges, ∃ batch, asked.1 = ⟨client, Client.deletionCommand batch⟩ ∧
          asked.1.command.namedKeys = batch.map ObjectKey.text ∧ batch.length ≤ 1000) ∧
        exchanges.length = (keys.keys.length + 999) / 1000 ∧
        (∀ key, key ∈ exchanges.namedKeys ↔ keys.contains key = true) ∧
        exchanges.namedKeys.Pairwise (· < ·) := by
  refine ⟨Document.namedKeys_deletion, fun parts => ⟨Document.partNumbers_completion parts,
    Document.partTexts_completion parts⟩, ?_⟩
  intro client keys exchanges result goes successes noErrors
  rcases goes_deleteMany_of_succeeds goes successes noErrors with ⟨rfl, commands⟩
  have positive : 0 < Client.batchSize := by decide
  have named : exchanges.namedKeys = keys.keys := by
    rw [namedKeys_of_commands commands, flatten_batches positive, KeySet.toKeys, List.map_map]
    exact List.map_id _
  refine ⟨rfl, ?_, ?_, ?_, ?_⟩
  · intro asked member
    have isCommand : asked.1 ∈ exchanges.map Sigma.fst := List.mem_map_of_mem member
    rw [commands] at isCommand
    rcases List.mem_map.mp isCommand with ⟨batch, isBatch, same⟩
    rw [← same]
    exact ⟨batch, rfl, namedKeys_deletionCommand batch, (length_of_mem_batches isBatch).2⟩
  · have counted := congrArg List.length commands
    rw [List.length_map, List.length_map, length_batches positive, KeySet.toKeys,
      List.length_map] at counted
    exact counted
  · intro key
    rw [named, SortedMap.mem_keys_iff, SortedMap.contains, Option.isSome_iff_exists]
  · rw [named]
    exact SortedMap.keys_increasing keys

/-! Two keys that hold markup and what looks like an entity. -/

private def registrar : Client := ⟨"bucket", "us-east-1", none, "AK", "SK", none⟩

private def oddKeys : KeySet := KeySet.ofKeys [⟨"b&amp;lt;"⟩, ⟨"<Key>a</Key>"⟩]

private def emptied : Exchanges :=
  (registrar.deleteMany oddKeys).run.transcript Exchange.fromScript
    [⟨200, [], "<DeleteResult></DeleteResult>".toUTF8⟩]

theorem documents_name_what_was_given_odd_keys :
    (registrar.deleteMany oddKeys).run.Goes emptied (.ok ()) ∧
      (∀ asked ∈ emptied, Succeeds asked.2) ∧ emptied.errors = [] ∧ emptied.length = 1 ∧
      "b&amp;lt;" ∈ emptied.namedKeys ∧ "<Key>a</Key>" ∈ emptied.namedKeys := by
  have goes : (registrar.deleteMany oddKeys).run.Goes emptied (.ok ()) := by
    have ends : ((registrar.deleteMany oddKeys).run.run Exchange.fromScript
        [⟨200, [], "<DeleteResult></DeleteResult>".toUTF8⟩]).1 = .ok () := by decide +kernel
    exact ends ▸ goes_run _ _ _
  have possible : emptied.IsPossible := isPossible_fromScript _ _
  have noErrors : emptied.errors = [] := by decide +kernel
  rcases ((Client.deleteMany_ok_iff possible goes).mp rfl).1 with ⟨_, -, -, -, successes⟩
  rcases documents_name_what_was_given.2.2 registrar oddKeys emptied (.ok ()) goes successes
    noErrors with ⟨-, -, counted, named, -⟩
  exact ⟨goes, successes, noErrors, counted, (named _).mpr (by decide), (named _).mpr (by decide)⟩

end S3

end Depot
