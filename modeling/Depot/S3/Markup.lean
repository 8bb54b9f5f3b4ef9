import Depot.Text

/-!
The little XML that an S3 store speaks: text with the five predefined entities, and elements
without attributes, found by their tags.
-/

namespace Depot.S3.Markup

/-- The text with the characters that mean something in XML written as entities. -/
def escape (text : String) : String :=
  String.ofList (text.toList.flatMap fun character =>
    if character = '&' then "&amp;".toList
    else if character = '<' then "&lt;".toList
    else if character = '>' then "&gt;".toList
    else if character = '"' then "&quot;".toList
    else if character = '\'' then "&apos;".toList
    else [character])

/-- The text with entities written as their characters, one entity after the other. The ampersand
comes last, so that no ampersand that was decoded begins another entity. -/
def unescape (text : String) : String :=
  String.ofList
    (Text.replaceAll "&amp;".toList ['&']
      (Text.replaceAll "&apos;".toList ['\'']
        (Text.replaceAll "&quot;".toList ['"']
          (Text.replaceAll "&gt;".toList ['>']
            (Text.replaceAll "&lt;".toList ['<'] text.toList)))))

def openTag (tag : String) : List Char := '<' :: tag.toList ++ ['>']

def closeTag (tag : String) : List Char := '<' :: '/' :: tag.toList ++ ['>']

theorem length_after_lt {needle text before after : List Char} (filled : needle ≠ [])
    (cut : Text.cutText? needle text = some (before, after)) : after.length < text.length := by
  have whole := Text.cutText?_eq_some cut
  have positive := List.length_pos_iff.mpr filled
  simp only [whole, List.length_append]
  omega

/-- The bodies of all elements with a tag, in order. An element ends at the first closing tag
behind its opening tag, and one without a closing tag ends the search. -/
def elementsIn (tag : String) (text : List Char) : List (List Char) :=
  match opened : Text.cutText? (openTag tag) text with
  | none => []
  | some (_, inside) =>
      match closed : Text.cutText? (closeTag tag) inside with
      | none => []
      | some (body, rest) =>
          have first := length_after_lt (by simp [openTag]) opened
          have second := length_after_lt (by simp [closeTag]) closed
          body :: elementsIn tag rest
termination_by text.length
decreasing_by omega

def elements (text tag : String) : List String :=
  (elementsIn tag text.toList).map String.ofList

def first? (text tag : String) : Option String := (elements text tag).head?

def element (tag body : String) : String :=
  String.ofList (openTag tag) ++ body ++ String.ofList (closeTag tag)

end Depot.S3.Markup
