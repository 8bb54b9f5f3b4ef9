import Depot.Proofs.Children
import Depot.Proofs.Entities
import Depot.S3.Document

/-!
A listing is read from a document as it was written. A document is taken as its tags and the texts
between them, which are written with entities, so that no text ever looks like a tag. Whatever else
stands in the document, and in whatever order, as long as it does not use the tags of a listing, the
elements that are searched for are those that were written.
-/

namespace Depot

namespace Text

theorem cutText?_cons_of_ne {expected first : Char} {lead text : List Char}
    (different : expected ≠ first) :
    cutText? (expected :: lead) (first :: text) =
      (cutText? (expected :: lead) text).map fun (before, after) => (first :: before, after) :=
  cutText?_cons (if_neg different)

/-- A text is cut behind a stretch that the needle does not begin in. -/
theorem cutText?_append_of_not_mem {expected : Char} {lead stretch : List Char}
    (absent : expected ∉ stretch) (text : List Char) :
    cutText? (expected :: lead) (stretch ++ text) =
      (cutText? (expected :: lead) text).map fun (before, after) => (stretch ++ before, after) := by
  induction stretch with
  | nil => simp
  | cons first stretch induction =>
      rw [List.mem_cons, not_or] at absent
      rw [List.cons_append, cutText?_cons_of_ne absent.1, induction absent.2, Option.map_map]
      rfl

end Text

namespace S3.Markup

/-! ## Pieces of documents -/

/-- What stands in a tag, without its brackets. -/
@[ext] structure Tag where
  name : String
  plain : '<' ∉ name.toList ∧ '>' ∉ name.toList
  deriving DecidableEq

/-- The tag that ends an element. -/
def Tag.closing (tag : Tag) : Tag where
  name := "/" ++ tag.name
  plain := by
    rw [String.toList_append]
    constructor
    · simpa using tag.plain.1
    · simpa using tag.plain.2

inductive Piece where
  | tag (written : Tag)
  | text (content : String)
  deriving DecidableEq

def Piece.render : Piece → List Char
  | .tag written => openTag written.name
  | .text content => (escape content).toList

def render (pieces : List Piece) : List Char := pieces.flatMap Piece.render

def Tag.element (tag : Tag) (body : List Piece) : List Piece :=
  .tag tag :: body ++ [.tag tag.closing]

/-- Whether a tag is not used in pieces of a document. -/
def Tag.Unused (tag : Tag) (pieces : List Piece) : Prop := .tag tag ∉ pieces

instance (tag : Tag) (pieces : List Piece) : Decidable (tag.Unused pieces) :=
  inferInstanceAs (Decidable (.tag tag ∉ pieces))

variable {tag other : Tag} {front pieces body back : List Piece} {text : List Char}

theorem render_append (front back : List Piece) :
    render (front ++ back) = render front ++ render back :=
  List.flatMap_append

theorem openTag_eq (name : String) : openTag name = '<' :: (name.toList ++ ['>']) := rfl

theorem closeTag_eq (tag : Tag) : closeTag tag.name = openTag tag.closing.name := by
  simp [openTag, closeTag, Tag.closing, String.toList_append]

theorem render_element : render (tag.element body) =
    openTag tag.name ++ (render body ++ closeTag tag.name) := by
  rw [closeTag_eq]
  simp [Tag.element, render, Piece.render]

/-- A tag begins with another one only if both are the same. -/
theorem dropLead?_openTag (different : tag ≠ other) :
    Text.dropLead? (openTag tag.name) (openTag other.name ++ text) = none := by
  cases found : Text.dropLead? (openTag tag.name) (openTag other.name ++ text) with
  | none => rfl
  | some rest =>
      have whole := Text.dropLead?_eq_some_iff.mp found
      have sameName : other.name.toList ++ '>' :: text = tag.name.toList ++ '>' :: rest := by
        simpa [openTag] using whole
      have cut := Text.cutAt?_append other.plain.2 text
      rw [sameName, Text.cutAt?_append tag.plain.2, Option.some.injEq, Prod.mk.injEq] at cut
      exact absurd (Tag.ext (String.toList_inj.mp cut.1)) different

/-- A text is not cut in a tag that is another one. -/
theorem cutText?_append_openTag (different : tag ≠ other) (text : List Char) :
    Text.cutText? (openTag tag.name) (openTag other.name ++ text) =
      (Text.cutText? (openTag tag.name) text).map fun (before, after) =>
        (openTag other.name ++ before, after) := by
  have within : '<' ∉ other.name.toList ++ ['>'] := by simpa using other.plain.1
  have absent : Text.dropLead? (openTag tag.name) (openTag other.name ++ text) = none :=
    dropLead?_openTag different
  rw [openTag_eq, openTag_eq, List.cons_append] at absent ⊢
  rw [Text.cutText?_cons absent, Text.cutText?_append_of_not_mem within, Option.map_map]
  rfl

/-- A text is cut at a tag behind pieces that do not use the tag. -/
theorem cutText?_append_render (unused : tag.Unused front) (text : List Char) :
    Text.cutText? (openTag tag.name) (render front ++ text) =
      (Text.cutText? (openTag tag.name) text).map fun (before, after) =>
        (render front ++ before, after) := by
  induction front with
  | nil => simp [render]
  | cons piece front induction =>
      rw [Tag.Unused, List.mem_cons, not_or] at unused
      have skips (text : List Char) : Text.cutText? (openTag tag.name) (piece.render ++ text) =
          (Text.cutText? (openTag tag.name) text).map fun (before, after) =>
            (piece.render ++ before, after) := by
        cases piece with
        | text content => exact Text.cutText?_append_of_not_mem (not_mem_escape content) text
        | tag other => exact cutText?_append_openTag (fun same => unused.1 (congrArg _ same)) text
      have rendered : render (piece :: front) = piece.render ++ render front := rfl
      rw [rendered, List.append_assoc, skips, induction unused.2, Option.map_map]
      congr 1
      funext cut
      simp

/-! ### Tags that are not used -/

@[simp] theorem unused_append :
    tag.Unused (front ++ back) ↔ tag.Unused front ∧ tag.Unused back := by
  simp [Tag.Unused]

@[simp] theorem unused_text {content : String} : tag.Unused [.text content] := by
  simp [Tag.Unused]

@[simp] theorem unused_element :
    tag.Unused (other.element body) ↔ tag ≠ other ∧ tag ≠ other.closing ∧ tag.Unused body := by
  simp [Tag.Unused, Tag.element]
  tauto

/-! ## Elements -/

theorem elementsIn_eq (name : String) (text : List Char) :
    elementsIn name text =
      match Text.cutText? (openTag name) text with
      | none => []
      | some (_, inside) =>
          match Text.cutText? (closeTag name) inside with
          | none => []
          | some (body, rest) => body :: elementsIn name rest := by
  rw [elementsIn]
  split
  next absent => rw [absent]
  next opened =>
    split
    next absent => simp only [opened, absent]
    next closed => simp only [opened, closed]

/-- Pieces that do not use a tag are passed over. -/
theorem elementsIn_append_of_unused (unused : tag.Unused front) (text : List Char) :
    elementsIn tag.name (render front ++ text) = elementsIn tag.name text := by
  rw [elementsIn_eq, cutText?_append_render unused, elementsIn_eq tag.name text]
  cases Text.cutText? (openTag tag.name) text <;> rfl

/-- The body of an element is found as it was written. -/
theorem elementsIn_element (inside : tag.closing.Unused body) (text : List Char) :
    elementsIn tag.name (render (tag.element body) ++ text) =
      render body :: elementsIn tag.name text := by
  have atStart (tag : Tag) (text : List Char) :
      Text.cutText? (openTag tag.name) (openTag tag.name ++ text) = some ([], text) :=
    Text.cutText?_of_lead (Text.dropLead?_eq_some_iff.mpr rfl)
  rw [render_element, List.append_assoc, List.append_assoc, elementsIn_eq, atStart]
  dsimp only
  rw [closeTag_eq, cutText?_append_render inside, atStart]
  simp

/-- Whether pieces are an element with some body, or do not use its tag where there is no body. -/
def Tag.Holds (tag : Tag) (pieces : List Piece) : Option (List Piece) → Prop
  | some body => pieces = tag.element body ∧ tag.closing.Unused body
  | none => tag.Unused pieces

theorem Tag.holds_element (opens : tag ≠ other → tag ≠ other.closing ∧ tag.Unused body)
    (closes : tag.closing.Unused body) :
    tag.Holds (other.element body) (if other = tag then some body else none) := by
  split
  next same =>
    cases same
    exact ⟨rfl, closes⟩
  next different => exact unused_element.mpr ⟨Ne.symm different, opens (Ne.symm different)⟩

/-- The elements that are found are those that were written, in order. -/
theorem elementsIn_flatMap {Item : Type} {items : List Item} {pieces : Item → List Piece}
    {body? : Item → Option (List Piece)} (holds : ∀ item, tag.Holds (pieces item) (body? item)) :
    elementsIn tag.name (render (items.flatMap pieces)) = (items.filterMap body?).map render := by
  induction items with
  | nil => exact elementsIn_eq tag.name []
  | cons item items induction =>
      rw [List.flatMap_cons, render_append]
      have here := holds item
      cases written : body? item with
      | none =>
          rw [written] at here
          rw [elementsIn_append_of_unused here, induction, List.filterMap_cons_none written]
      | some body =>
          rw [written] at here
          rw [here.1, elementsIn_element here.2, induction, List.filterMap_cons_some written,
            List.map_cons]

theorem render_text (content : String) : String.ofList (render [.text content]) = escape content := by
  simp [render, Piece.render]

/-- The text of the first element with a tag is read as it was written. -/
theorem first?_render {content : String} (unused : tag.Unused front) (back : List Piece) :
    first? (String.ofList (render (front ++ (tag.element [.text content] ++ back)))) tag.name =
      some (escape content) := by
  rw [first?, elements, String.toList_ofList, render_append, render_append,
    elementsIn_append_of_unused unused, elementsIn_element unused_text, List.map_cons,
    List.head?_cons, render_text]

end S3.Markup

namespace S3.Document

open Markup

/-! ## Listings -/

def contentsTag : Tag := ⟨"Contents", by decide⟩
def keyTag : Tag := ⟨"Key", by decide⟩
def commonPrefixesTag : Tag := ⟨"CommonPrefixes", by decide⟩
def prefixTag : Tag := ⟨"Prefix", by decide⟩
def truncatedTag : Tag := ⟨"IsTruncated", by decide⟩
def tokenTag : Tag := ⟨"NextContinuationToken", by decide⟩
def delimiterTag : Tag := ⟨"Delimiter", by decide⟩

/-- The tags by which a listing is read. -/
def listingTags : List Tag :=
  [contentsTag, keyTag, commonPrefixesTag, prefixTag, truncatedTag, tokenTag]

/-- What may stand in a listing besides what is read: anything that does not use its tags. -/
structure Foreign where
  pieces : List Piece
  isForeign : ∀ tag ∈ listingTags, tag.Unused pieces ∧ tag.closing.Unused pieces

theorem Foreign.unused (foreign : Foreign) {tag : Tag} (reserved : tag ∈ listingTags) :
    tag.Unused foreign.pieces := (foreign.isForeign tag reserved).1

theorem Foreign.closing_unused (foreign : Foreign) {tag : Tag} (reserved : tag ∈ listingTags) :
    tag.closing.Unused foreign.pieces := (foreign.isForeign tag reserved).2

/-- The delimiter of the request, as it is told again. -/
def Foreign.delimiter (text : String) : Foreign where
  pieces := delimiterTag.element [.text text]
  isForeign := by
    have others : ∀ tag ∈ listingTags, (tag ≠ delimiterTag ∧ tag ≠ delimiterTag.closing) ∧
        tag.closing ≠ delimiterTag ∧ tag.closing ≠ delimiterTag.closing := by decide
    intro tag reserved
    simp [others tag reserved]

/-- The body of an entry: a text as an element, with something before and after it. -/
def entry (inner : Tag) (before : Foreign) (text : String) (after : Foreign) : List Piece :=
  before.pieces ++ (inner.element [.text text] ++ after.pieces)

/-- A part of a listing. -/
inductive Part where
  | contents (before : Foreign) (key : String) (after : Foreign)
  | commonPrefixes (before : Foreign) (lead : String) (after : Foreign)
  | truncated (goesOn : Bool)
  | token (text : String)
  /-- The lead of the request, as it is told again. -/
  | echo (lead : String)
  | foreign (content : Foreign)

namespace Part

/-- The element that a part is, by its tag and its body. -/
def element? : Part → Option (Tag × List Piece)
  | contents before key after => some (contentsTag, entry keyTag before key after)
  | commonPrefixes before lead after => some (commonPrefixesTag, entry prefixTag before lead after)
  | truncated goesOn => some (truncatedTag, [.text (toString goesOn)])
  | token text => some (tokenTag, [.text text])
  | echo lead => some (prefixTag, [.text lead])
  | foreign _ => none

def pieces (part : Part) : List Piece :=
  match part with
  | foreign content => content.pieces
  | part => (part.element?.map fun (tag, body) => tag.element body).getD []

/-- The body of a part, if it is an element with a tag. -/
def body? (tag : Tag) (part : Part) : Option (List Piece) :=
  part.element?.bind fun (own, body) => if own = tag then some body else none

def key? : Part → Option String
  | contents _ key _ => some key
  | _ => none

def commonLead? : Part → Option String
  | commonPrefixes _ lead _ => some lead
  | _ => none

def goesOn? : Part → Option Bool
  | truncated goesOn => some goesOn
  | _ => none

def token? : Part → Option String
  | token text => some text
  | _ => none

end Part

/-- A document as its parts, one after another. -/
def listing (parts : List Part) : String := String.ofList (render (parts.flatMap Part.pieces))

/-- Whether the parts of a document are those of a page. They may come in any order. -/
structure Renders (parts : List Part) (page : ListingPage) : Prop where
  keys : parts.filterMap Part.key? = page.keys
  commonLeads : parts.filterMap Part.commonLead? = page.commonLeads
  truncated : parts.filterMap Part.goesOn? = [page.continuation.isSome]
  token : parts.filterMap Part.token? = page.continuation.toList

/-- A page with what it was asked for, and with something beside each of its entries. -/
def partsOf (lead : String) (delimiter : Option String) (beside : Foreign) (page : ListingPage) :
    List Part :=
  [.echo lead] ++ delimiter.toList.map (fun delimiter => .foreign (.delimiter delimiter)) ++
    [.truncated page.continuation.isSome] ++ page.continuation.toList.map .token ++
    page.keys.map (fun key => .contents beside key beside) ++
    page.commonLeads.map fun lead => .commonPrefixes beside lead beside

theorem renders_partsOf (lead : String) (delimiter : Option String) (beside : Foreign)
    (page : ListingPage) : Renders (partsOf lead delimiter beside page) page where
  keys := by
    simp [partsOf, List.filterMap_cons, List.filterMap_map, Function.comp_def, Part.key?]
  commonLeads := by
    simp [partsOf, List.filterMap_cons, List.filterMap_map, Function.comp_def, Part.commonLead?]
  truncated := by
    simp [partsOf, List.filterMap_cons, List.filterMap_map, Function.comp_def, Part.goesOn?]
  token := by
    simp [partsOf, List.filterMap_cons, List.filterMap_map, Function.comp_def, Part.token?]

/-- The tags of the parts that are searched for. -/
def partTags : List Tag := [contentsTag, commonPrefixesTag, truncatedTag, tokenTag]

/-- A part is an element with one of these tags, or does not use the tag. -/
theorem holds_pieces {tag : Tag} (isPart : tag ∈ partTags) (part : Part) :
    tag.Holds part.pieces (part.body? tag) := by
  have reserved : ∀ tag ∈ partTags, tag ∈ listingTags := by decide
  have opens (foreign : Foreign) : tag.Unused foreign.pieces := foreign.unused (reserved tag isPart)
  have closes (foreign : Foreign) : tag.closing.Unused foreign.pieces :=
    foreign.closing_unused (reserved tag isPart)
  have outer : ∀ tag ∈ partTags, ∀ own ∈ listingTags, tag ≠ own.closing := by decide
  have inner : ∀ tag ∈ partTags, ∀ own ∈ [keyTag, prefixTag],
      tag ≠ own ∧ tag ≠ own.closing ∧ tag.closing ≠ own ∧ tag.closing ≠ own.closing := by decide
  have outerHere := outer tag isPart
  have innerHere := inner tag isPart
  simp only [listingTags, List.forall_mem_cons] at outerHere innerHere
  cases part with
  | foreign content => exact opens content
  | contents => exact Tag.holds_element (by simp [entry, *]) (by simp [entry, *])
  | commonPrefixes => exact Tag.holds_element (by simp [entry, *]) (by simp [entry, *])
  | truncated => exact Tag.holds_element (by simp [*]) (by simp)
  | token => exact Tag.holds_element (by simp [*]) (by simp)
  | echo => exact Tag.holds_element (by simp [*]) (by simp)

variable {parts : List Part} {page : ListingPage}

/-- The elements that are found in a document are the parts with their tag. -/
theorem elements_listing {tag : Tag} (isPart : tag ∈ partTags) :
    elements (listing parts) tag.name =
      (parts.filterMap (Part.body? tag)).map fun body => String.ofList (render body) := by
  rw [elements, listing, String.toList_ofList, elementsIn_flatMap (holds_pieces isPart), List.map_map]
  rfl

/-- The inner texts of elements are those that were written, if each body is read so. -/
theorem innerTexts_listing {tag : Tag} {inner : String} {written : Part → Option String}
    (isPart : tag ∈ partTags)
    (reads : ∀ part, ((part.body? tag).bind fun body =>
      (first? (String.ofList (render body)) inner).map unescape) = written part) :
    innerTexts (listing parts) tag.name inner = parts.filterMap written := by
  rw [innerTexts, elements_listing isPart, List.filterMap_map, List.filterMap_filterMap]
  congr 1
  funext part
  exact reads part

theorem read_entry {tag : Tag} (reserved : tag ∈ listingTags) (before : Foreign) (text : String)
    (after : Foreign) :
    (first? (String.ofList (render (entry tag before text after))) tag.name).map unescape =
      some text := by
  rw [entry, first?_render (before.unused reserved), Option.map_some, unescape_escape]

/-- The keys are found in their elements, with whatever stands next to them. -/
theorem keys_listing : innerTexts (listing parts) "Contents" "Key" = parts.filterMap Part.key? := by
  apply innerTexts_listing (by decide : contentsTag ∈ partTags)
  intro part
  cases part with
  | contents before key after =>
      exact read_entry (by decide : keyTag ∈ listingTags) before key after
  | _ => rfl

/-- The leads are found in their elements, and not in the one that tells the request again. -/
theorem commonLeads_listing :
    innerTexts (listing parts) "CommonPrefixes" "Prefix" = parts.filterMap Part.commonLead? := by
  apply innerTexts_listing (by decide : commonPrefixesTag ∈ partTags)
  intro part
  cases part with
  | commonPrefixes before lead after =>
      exact read_entry (by decide : prefixTag ∈ listingTags) before lead after
  | _ => rfl

/-- The first text that is found in elements of texts is the first that was written. -/
theorem first?_listing {tag : Tag} {written : Part → Option String} (isPart : tag ∈ partTags)
    (isText : ∀ part, part.body? tag = (written part).map fun text => [.text text]) :
    first? (listing parts) tag.name = ((parts.filterMap written).map escape).head? := by
  have bodies : parts.filterMap (Part.body? tag) =
      (parts.filterMap written).map fun text => [.text text] := by
    rw [List.map_filterMap]
    congr 1
    funext part
    exact isText part
  have asWritten : (fun body => String.ofList (render body)) ∘ (fun text => [.text text]) = escape :=
    funext render_text
  rw [first?, elements_listing isPart, bodies, List.map_map, asWritten]

theorem escape_toString (value : Bool) : escape (toString value) = toString value := by
  cases value <;> decide

/-- Whether a listing goes on is read. -/
theorem truncated_listing (renders : Renders parts page) :
    first? (listing parts) "IsTruncated" = some (toString page.continuation.isSome) := by
  have texts : parts.filterMap (fun part => part.goesOn?.map toString) =
      [toString page.continuation.isSome] := by
    rw [← List.map_filterMap, renders.truncated, List.map_singleton]
  have read : first? (listing parts) truncatedTag.name =
      ((parts.filterMap fun part => part.goesOn?.map toString).map escape).head? := by
    apply first?_listing (by decide)
    intro part
    cases part <;> rfl
  rw [texts, List.map_singleton, escape_toString] at read
  exact read

/-- The token from which a listing goes on is read. -/
theorem token_listing (renders : Renders parts page) :
    (first? (listing parts) "NextContinuationToken").map unescape = page.continuation := by
  have read : first? (listing parts) tokenTag.name =
      ((parts.filterMap Part.token?).map escape).head? := by
    apply first?_listing (by decide)
    intro part
    cases part <;> rfl
  change (first? (listing parts) tokenTag.name).map unescape = page.continuation
  rw [read, renders.token]
  cases page.continuation with
  | none => rfl
  | some token => exact congrArg some (unescape_escape token)

/-- A page is read from each document that was written of it, whatever its texts hold. -/
theorem readListing_listing (renders : Renders parts page) : readListing (listing parts) = page := by
  cases page with
  | mk keys commonLeads token =>
      rw [readListing, ListingPage.mk.injEq, keys_listing, commonLeads_listing, token_listing renders,
        truncated_listing renders]
      refine ⟨renders.keys, renders.commonLeads, ?_⟩
      cases token with
      | none => rfl
      | some token => rfl

end S3.Document

end Depot
