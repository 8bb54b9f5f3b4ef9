import Depot.Memory.Store

/-!
Listing of the store page by page. The keys that match are taken in order; with a delimiter, a key
that holds it behind the lead is rolled up into everything up to and including the delimiter, and
neighbours that roll up to the same text make one entry. A page holds as many entries as its size
allows, and its continuation is the text of its last entry.
-/

namespace Depot.Memory

inductive Entry where
  | key (text : String)
  /-- What keys with a delimiter behind the lead are rolled up into. -/
  | rolledUp (text : String)
  deriving DecidableEq, Repr

namespace Entry

/-- The text that names the entry in a continuation. -/
def text : Entry → String
  | .key text => text
  | .rolledUp text => text

def key? : Entry → Option String
  | .key text => some text
  | .rolledUp _ => none

def rolledUp? : Entry → Option String
  | .key _ => none
  | .rolledUp text => some text

/-- The entry of a key: a roll-up if the key starts with the lead and holds the delimiter behind
it. An empty delimiter is no delimiter. -/
def ofKey (lead : String) (delimiter : Option String) (key : String) : Entry :=
  match delimiter with
  | none => .key key
  | some separator =>
      if separator = "" then .key key
      else
        match Text.dropLead? lead.toList key.toList with
        | none => .key key
        | some rest =>
            match Text.cutText? separator.toList rest with
            | none => .key key
            | some (before, _) => .rolledUp (lead ++ String.ofList before ++ separator)

end Entry

/-- The entries with each roll-up that follows an equal one left out. -/
def dropRepeats : List Entry → List Entry
  | [] => []
  | [entry] => [entry]
  | first :: second :: entries =>
      if first = second ∧ first.rolledUp?.isSome then dropRepeats (second :: entries)
      else first :: dropRepeats (second :: entries)

namespace Store

/-- The text that a key has to start with to be listed. -/
def filterLead (store : Store) (lead : String) : String :=
  if store.loose then String.ofList (Text.trimEnd '/' lead.toList) else lead

/-- Whether a continuation stands for everything that was rolled up into it: it holds the delimiter
behind the lead. -/
def coversRollUp (lead : String) (delimiter : Option String) (token : String) : Bool :=
  match delimiter with
  | none => false
  | some separator =>
      separator != "" &&
        match Text.dropLead? lead.toList token.toList with
        | none => false
        | some rest => Text.contains separator.toList rest

/-- Whether a key lies behind a continuation: after it in order, and not rolled up into it. -/
def isBehind (lead : String) (delimiter : Option String) (token : Option String) (key : String) :
    Bool :=
  match token with
  | none => true
  | some token =>
      decide (token < key) &&
        !(coversRollUp lead delimiter token && Text.startsWith token.toList key.toList)

def entriesBehind (store : Store) (lead : String) (delimiter token : Option String) : List Entry :=
  let shown := (store.filterLead lead).toList
  let keys := store.keys.filter fun key =>
    isBehind lead delimiter token key && Text.startsWith shown key.toList
  dropRepeats (keys.map (Entry.ofKey lead delimiter))

def listPage (store : Store) (lead : String) (delimiter token : Option String) : ListingPage :=
  let behind := store.entriesBehind lead delimiter token
  let entries := behind.take store.pageSize
  { keys := entries.filterMap Entry.key?
    commonLeads := entries.filterMap Entry.rolledUp?
    continuation :=
      if behind.length > store.pageSize then entries.getLast?.map Entry.text else none }

end Store

end Depot.Memory
