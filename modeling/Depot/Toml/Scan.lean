import Depot.Text

/-!
Reading text from the left. A scan takes what it wants from the start of a text and leaves the
rest, or fails and leaves everything. Repetition needs no bound from outside: it goes on only while
the text becomes shorter. So that this is known at once, a text that is being read has its length
with it.
-/

namespace Depot.Toml

structure Unread where
  text : List Char
  length : Nat
  length_eq : length = text.length

namespace Unread

def ofText (text : List Char) : Unread := ⟨text, text.length, rfl⟩

/-- The text behind `lead`, if it begins with that. -/
def dropLead? (lead : List Char) (unread : Unread) : Option Unread :=
  match found : Text.dropLead? lead unread.text with
  | none => none
  | some rest => some ⟨rest, unread.length - lead.length, by
      simp [unread.length_eq, Text.dropLead?_eq_some_iff.mp found]⟩

/-- The accepted characters at the start, and the text behind them. -/
def span (accepts : Char → Bool) (unread : Unread) : List Char × Unread :=
  let taken := unread.text.takeWhile accepts
  (taken, ⟨unread.text.dropWhile accepts, unread.length - taken.length, by
    have whole : taken.length + (unread.text.dropWhile accepts).length = unread.text.length := by
      rw [← List.length_append, List.takeWhile_append_dropWhile]
    have := unread.length_eq
    omega⟩)

end Unread

abbrev Scan (Result : Type) := StateT Unread Option Result

namespace Scan

variable {Result : Type}

def one (accepts : Char → Bool) : Scan Char
  | ⟨[], _, _⟩ => none
  | ⟨first :: rest, length, length_eq⟩ =>
      if accepts first then some (first, ⟨rest, length - 1, by simp [length_eq]⟩) else none

def takeWhile (accepts : Char → Bool) : Scan (List Char) := fun unread =>
  some (unread.span accepts)

/-- All accepted characters from here on, at least one. -/
def takeSome (accepts : Char → Bool) : Scan (List Char) := do
  return (← one accepts) :: (← takeWhile accepts)

def exactly (accepts : Char → Bool) : Nat → Scan (List Char)
  | 0 => return []
  | count + 1 => do return (← one accepts) :: (← exactly accepts count)

def literal (expected : String) : Scan Unit := fun unread =>
  (unread.dropLead? expected.toList).map fun rest => ((), rest)

/-- What an item reads, over and over, until it fails or reads nothing; `done` is what it has read
before, with the last result first. -/
def repeated (item : Scan Result) (done : List Result) (unread : Unread) :
    List Result × Unread :=
  match item unread with
  | none => (done.reverse, unread)
  | some (next, rest) =>
      if rest.length < unread.length then repeated item (next :: done) rest
      else (done.reverse, unread)
termination_by unread.length

/-- Items one after another, perhaps none. -/
def many (item : Scan Result) : Scan (List Result) := fun unread =>
  some (repeated item [] unread)

/-- Items with a separator between neighbours, at least one. -/
def separated (separator : Scan Unit) (item : Scan Result) : Scan (List Result) := do
  let first ← item
  return first :: (← many (separator *> item))

/-- Nothing, where the text has ended. -/
def finish : Scan Unit := fun unread => if unread.length = 0 then some ((), unread) else none

def whole (scan : Scan Result) (text : String) : Option Result :=
  ((scan <* finish) (.ofText text.toList)).map Prod.fst

/-! ## Blanks, lines and comments -/

def isSpace (character : Char) : Bool := character == ' ' || character == '\t'

/-- Whether a character may stand in text as it is: no control character but the tab. -/
def isPlain (character : Char) : Bool :=
  character == '\t' || (0x20 ≤ character.toNat && character.toNat != 0x7F)

def spaces : Scan Unit := do let _ ← takeWhile isSpace

def newline : Scan Unit := literal "\n" <|> literal "\r\n"

def comment : Scan Unit := do
  literal "#"
  let _ ← takeWhile isPlain

/-- The end of a line or of the text, perhaps after a comment. -/
def lineEnd : Scan Unit := do
  spaces
  let _ ← optional comment
  newline <|> finish

/-- Spaces, comments and line ends. -/
def layout : Scan Unit := do
  spaces
  let _ ← many (optional comment *> newline *> spaces)

def spaced (item : Scan Result) : Scan Result := spaces *> item <* spaces

end Scan

end Depot.Toml
