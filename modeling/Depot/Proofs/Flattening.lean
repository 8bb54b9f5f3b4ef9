import Mathlib.Data.List.Lex
import Mathlib.Data.String.Basic
import Depot.Toml.Properties

/-!
The properties of a table. Every value that is no table stands behind a path of keys, and it gives the
property whose name is that path, joined by dots, without the empty keys at its beginning. Of values
with one name the one with the last path counts, where paths are compared key by key. So a value is
under its whole path unless the path begins with an empty key and goes on.
-/

namespace Depot.Toml

namespace Value

/-! ## Values in values -/

def isTable : Value → Bool
  | .table _ => true
  | _ => false

/-- A value that is no table stands in a value behind a path of keys. -/
inductive Holds : Value → List String → Value → Prop where
  | leaf {value : Value} (noTable : value.isTable = false) : Holds value [] value
  | entry {entries : Table} {key : String} {inner leaf : Value} {path : List String}
      (member : (key, inner) ∈ entries) (holds : inner.Holds path leaf) :
      Holds (.table entries) (key :: path) leaf

/-- In a table and in those below it the keys increase. -/
inductive Ordered : Value → Prop where
  | leaf {value : Value} (noTable : value.isTable = false) : Ordered value
  | table {entries : Table} (increasing : entries.Pairwise fun left right => left.1 < right.1)
      (below : ∀ key inner, (key, inner) ∈ entries → inner.Ordered) : Ordered (.table entries)

end Value

/-! ## The walk -/

mutual

/-- All values in a value that are no tables, with their paths, as a walk comes by them. -/
def Value.places : Value → List (List String × Value)
  | .table entries => placesBelow entries
  | .text content => [([], .text content)]
  | .integer number => [([], .integer number)]
  | .real number => [([], .real number)]
  | .truth holds => [([], .truth holds)]
  | .moment instant => [([], .moment instant)]
  | .array elements => [([], .array elements)]

def placesBelow : List (String × Value) → List (List String × Value)
  | [] => []
  | (key, value) :: entries =>
      value.places.map (fun place => (key :: place.1, place.2)) ++ placesBelow entries

end

theorem Value.places_of_leaf {value : Value} (noTable : value.isTable = false) :
    value.places = [([], value)] := by
  cases value with
  | table entries => cases noTable
  | _ => rfl

/-- The property of a place below a table with a name. -/
def property (table : String) (place : List String × Value) : String × String :=
  (place.1.foldl nameBelow table, place.2.display)

mutual

theorem Value.leaves_eq (name : String) : (value : Value) →
    value.leaves name = value.places.map (property name)
  | .table entries => leavesBelow_eq name entries
  | .text _ | .integer _ | .real _ | .truth _ | .moment _ | .array _ => rfl

theorem leavesBelow_eq (table : String) : (entries : List (String × Value)) →
    leavesBelow table entries = (placesBelow entries).map (property table)
  | [] => rfl
  | (key, value) :: entries => by
      rw [leavesBelow, Value.leaves_eq (nameBelow table key) value, leavesBelow_eq table entries,
        placesBelow, List.map_append, List.map_map]
      rfl

end

variable {path : List String} {leaf : Value}

theorem Value.holds_nil : ¬(Value.table []).Holds path leaf := by
  intro holds
  cases holds with
  | leaf noTable => cases noTable
  | entry member => cases member

theorem Value.holds_cons {key : String} {value : Value} {entries : Table} :
    (Value.table ((key, value) :: entries)).Holds path leaf ↔
      (∃ rest, path = key :: rest ∧ value.Holds rest leaf) ∨
        (Value.table entries).Holds path leaf := by
  constructor
  · intro holds
    cases holds with
    | leaf noTable => cases noTable
    | entry member holds =>
        rcases List.mem_cons.mp member with same | member
        · cases same
          exact .inl ⟨_, rfl, holds⟩
        · exact .inr (.entry member holds)
  · rintro (⟨rest, rfl, holds⟩ | holds)
    · exact .entry List.mem_cons_self holds
    · cases holds with
      | leaf noTable => cases noTable
      | entry member holds => exact .entry (List.mem_cons_of_mem _ member) holds

theorem Value.holds_of_leaf {value : Value} (noTable : value.isTable = false) :
    value.Holds path leaf ↔ (path, leaf) = ([], value) := by
  constructor
  · intro holds
    cases holds with
    | leaf => rfl
    | entry => cases noTable
  · rintro ⟨⟩
    exact .leaf noTable

mutual

/-- The walk comes by every value in its place, and by nothing else. -/
theorem Value.mem_places : (value : Value) → (place : List String × Value) →
    (place ∈ value.places ↔ value.Holds place.1 place.2)
  | .table entries, place => mem_placesBelow entries place
  | .text _, _ | .integer _, _ | .real _, _ | .truth _, _ | .moment _, _ | .array _, _ => by
      rw [Value.places_of_leaf rfl, Value.holds_of_leaf rfl, List.mem_singleton]

theorem mem_placesBelow : (entries : List (String × Value)) → (place : List String × Value) →
    (place ∈ placesBelow entries ↔ (Value.table entries).Holds place.1 place.2)
  | [], _ => iff_of_false List.not_mem_nil Value.holds_nil
  | (key, value) :: entries, place => by
      rw [placesBelow, List.mem_append, Value.holds_cons, mem_placesBelow entries place,
        List.mem_map]
      refine or_congr_left ⟨?_, ?_⟩
      · rintro ⟨inner, member, rfl⟩
        exact ⟨inner.1, rfl, (Value.mem_places value inner).mp member⟩
      · rintro ⟨rest, isPath, holds⟩
        exact ⟨(rest, place.2), (Value.mem_places value _).mpr holds, Prod.ext isPath.symm rfl⟩

end

/-! ## The order of the walk -/

theorem places_increasing_below {entries : Table}
    (increasing : entries.Pairwise fun left right => left.1 < right.1)
    (inside : ∀ key inner, (key, inner) ∈ entries →
      inner.places.Pairwise fun left right => left.1 < right.1) :
    (placesBelow entries).Pairwise fun left right => left.1 < right.1 := by
  induction entries with
  | nil => exact .nil
  | cons entry entries induction =>
      rcases entry with ⟨key, value⟩
      rw [List.pairwise_cons] at increasing
      rw [placesBelow, List.pairwise_append, List.pairwise_map]
      refine ⟨?_, ?_, ?_⟩
      · exact (inside key value List.mem_cons_self).imp fun less =>
          List.cons_lt_cons_iff.mpr (.inr ⟨rfl, less⟩)
      · exact induction increasing.2 fun key inner member =>
          inside key inner (List.mem_cons_of_mem _ member)
      · intro place among other later
        rcases List.mem_map.mp among with ⟨inner, -, rfl⟩
        have holds := (mem_placesBelow entries other).mp later
        rcases other with ⟨path, leaf⟩
        cases holds with
        | leaf noTable => cases noTable
        | entry member =>
            exact List.cons_lt_cons_iff.mpr (.inl (increasing.1 _ member))

/-- The walk comes by the paths in their order. -/
theorem Value.Ordered.places_increasing {value : Value} (ordered : value.Ordered) :
    value.places.Pairwise fun left right => left.1 < right.1 := by
  induction ordered with
  | leaf noTable =>
      rw [places_of_leaf noTable]
      exact List.pairwise_singleton _ _
  | table increasing _ induction => exact places_increasing_below increasing induction

/-- Where places come with the last path first, a name is looked up at the last place that has it. -/
theorem lookup_eq_some_iff {places : List (List String × Value)} {name text : String}
    (decreasing : places.Pairwise fun left right => right.1 < left.1)
    (named : List String × Value → String × String) :
    (places.map named).lookup name = some text ↔ ∃ place ∈ places, named place = (name, text) ∧
      ∀ other ∈ places, (named other).1 = name → other.1 ≤ place.1 := by
  induction places with
  | nil => simp
  | cons first places induction =>
      rw [List.pairwise_cons] at decreasing
      rw [List.map_cons, List.lookup_cons]
      by_cases here : name = (named first).1
      · rw [here, beq_self_eq_true]
        constructor
        · rintro ⟨⟩
          refine ⟨first, List.mem_cons_self, rfl, fun other member _ => ?_⟩
          rcases List.mem_cons.mp member with rfl | member
          · exact le_refl _
          · exact le_of_lt (decreasing.1 other member)
        · rintro ⟨place, member, isNamed, last⟩
          have before := last first List.mem_cons_self rfl
          rcases List.mem_cons.mp member with rfl | member
          · rw [isNamed]
          · exact absurd (decreasing.1 place member) (not_lt_of_ge before)
      · rw [beq_false_of_ne here]
        refine (induction decreasing.2).trans ⟨?_, ?_⟩
        · rintro ⟨place, member, isNamed, last⟩
          refine ⟨place, List.mem_cons_of_mem _ member, isNamed, fun other among same => ?_⟩
          rcases List.mem_cons.mp among with rfl | among
          · exact absurd same.symm here
          · exact last other among same
        · rintro ⟨place, member, isNamed, last⟩
          rcases List.mem_cons.mp member with rfl | member
          · exact absurd (congrArg Prod.fst isNamed).symm here
          · exact ⟨place, member, isNamed, fun other among =>
              last other (List.mem_cons_of_mem _ among)⟩

/-! ## Names -/

theorem join_merge (separator first second : List Char) (others : List (List Char)) :
    Text.join separator ((first ++ separator ++ second) :: others) =
      Text.join separator (first :: second :: others) := by
  cases others <;> simp [Text.join]

/-- Below a table with a name, a name is the name of the table and the keys. -/
theorem foldl_nameBelow {table : String} (named : table ≠ "") (path : List String) :
    path.foldl nameBelow table = Text.joinStrings "." (table :: path) := by
  induction path generalizing table with
  | nil => simp [Text.joinStrings, Text.join]
  | cons key path induction =>
      have longer : nameBelow table key = table ++ "." ++ key := if_neg named
      have stillNamed : table ++ "." ++ key ≠ "" := by simp
      rw [List.foldl_cons, longer, induction stillNamed, Text.joinStrings, Text.joinStrings]
      simp only [List.map_cons, String.toList_append, join_merge]

/-- The name at the end of a path: its keys without the empty ones at the beginning, joined by
dots. -/
def nameOf (path : List String) : String := Text.joinStrings "." (path.dropWhile (· == ""))

theorem foldl_nameBelow_empty (path : List String) : path.foldl nameBelow "" = nameOf path := by
  unfold nameOf
  induction path with
  | nil => rfl
  | cons key path induction =>
      have first : nameBelow "" key = key := if_pos rfl
      rw [List.foldl_cons, first]
      by_cases unnamed : key = ""
      · rw [unnamed, induction, List.dropWhile_cons_of_pos (by simp)]
      · rw [foldl_nameBelow unnamed, List.dropWhile_cons_of_neg (by simpa using unnamed)]

theorem joinStrings_empty_cons (key : String) (path : List String) :
    Text.joinStrings "." ("" :: key :: path) = "." ++ Text.joinStrings "." (key :: path) := by
  simp only [← String.toList_inj, String.toList_append, Text.joinStrings, String.toList_ofList,
    List.map_cons, Text.join_cons_cons]
  rfl

/-- Leaving empty keys out makes no name longer. -/
theorem length_nameOf_le (path : List String) :
    (nameOf path).length ≤ (Text.joinStrings "." path).length := by
  unfold nameOf
  induction path with
  | nil => exact le_refl _
  | cons key path induction =>
      by_cases unnamed : key = ""
      · subst unnamed
        rw [List.dropWhile_cons_of_pos (by simp)]
        cases path with
        | nil => exact Nat.zero_le _
        | cons next path =>
            rw [joinStrings_empty_cons, String.length_append]
            exact induction.trans (Nat.le_add_left _ _)
      · rw [List.dropWhile_cons_of_neg (by simpa using unnamed)]

/-- The whole path, joined by dots, is the name unless the path begins with an empty key and goes
on. -/
theorem nameOf_eq_iff {path : List String} :
    nameOf path = Text.joinStrings "." path ↔ ∀ key rest, path ≠ "" :: key :: rest := by
  unfold nameOf
  constructor
  · rintro same key rest rfl
    have shorter := length_nameOf_le (key :: rest)
    have lengths := congrArg String.length same
    rw [List.dropWhile_cons_of_pos (by simp), joinStrings_empty_cons, String.length_append,
      ← nameOf] at lengths
    have dot : ".".length = 1 := rfl
    omega
  · intro noLead
    cases path with
    | nil => rfl
    | cons key rest =>
        by_cases unnamed : key = ""
        · subst unnamed
          cases rest with
          | nil => rfl
          | cons next rest => exact absurd rfl (noLead next rest)
        · rw [List.dropWhile_cons_of_neg (by simpa using unnamed)]

/-! ## Tables of documents -/

theorem ordered_of_values {map : SortedMap Value}
    (all : ∀ key inner, map.find? key = some inner → inner.Ordered) :
    (Value.table map.entries).Ordered := by
  have increasing := map.keys_increasing
  rw [map.keys_eq_map_entries, List.pairwise_map] at increasing
  exact .table increasing fun key inner member => all key inner (SortedMap.mem_entries_iff.mp member)

mutual

/-- What is handed on stands in order. -/
theorem Value.ordered_of_arranged : (value : Value) → (arranged : Value) →
    value.arranged? = some arranged → arranged.Ordered
  | .array elements, arranged, isArranged => by
      rw [Value.arranged?, Option.map_eq_some_iff] at isArranged
      rcases isArranged with ⟨_, -, rfl⟩
      exact .leaf rfl
  | .table entries, arranged, isArranged => by
      rw [Value.arranged?] at isArranged
      split at isArranged
      · rcases Option.map_eq_some_iff.mp isArranged with ⟨_, -, rfl⟩
        exact .leaf rfl
      · rcases Option.map_eq_some_iff.mp isArranged with ⟨map, isMap, rfl⟩
        exact ordered_of_values (ordered_of_arrangedEntries entries map isMap)
  | .text _, _, isArranged | .integer _, _, isArranged | .real _, _, isArranged
  | .truth _, _, isArranged | .moment _, _, isArranged => by
      cases isArranged
      exact .leaf rfl

theorem ordered_of_arrangedEntries : (entries : List (String × Value)) → (map : SortedMap Value) →
    arrangedEntries? entries = some map →
      ∀ key inner, map.find? key = some inner → inner.Ordered
  | [], map, isMap, key, inner, found => by
      cases isMap
      rw [SortedMap.find?_empty] at found
      cases found
  | (first, value) :: entries, map, isMap, key, inner, found => by
      rw [arrangedEntries?] at isMap
      rcases Option.bind_eq_some_iff.mp isMap with ⟨others, isOthers, isMap⟩
      rcases Option.bind_eq_some_iff.mp isMap with ⟨arranged, isArranged, isMap⟩
      cases isMap
      rw [SortedMap.find?_insert] at found
      split at found
      · cases found
        exact Value.ordered_of_arranged value inner isArranged
      · exact ordered_of_arrangedEntries entries others isOthers key inner found

end

/-- The tables that documents describe are in order. -/
theorem ordered_of_ofText {text : String} {table : Table} (isTable : Table.ofText? text = some table) :
    (Value.table table).Ordered := by
  rcases Option.bind_eq_some_iff.mp isTable with ⟨statements, -, isTable⟩
  rcases Option.bind_eq_some_iff.mp isTable with ⟨written, -, isTable⟩
  rcases Option.map_eq_some_iff.mp isTable with ⟨map, isMap, rfl⟩
  exact ordered_of_values (ordered_of_arrangedEntries written map isMap)

/-! ## Properties -/

variable {table : Table}

theorem find?_properties (table : Table) (name : String) : table.properties.find? name =
    ((placesBelow table).reverse.map (property "")).lookup name := by
  rw [Table.properties, SortedMap.find?_ofList, leavesBelow_eq, List.map_reverse]

/-- The properties of a table in order are those of its values: each has the name at the end of the
path of a value and is that value as text, and it is the value with the last path of all that have
this name. The name is the whole path, joined by dots, unless that begins with an empty key and goes
on. -/
theorem properties_exact (ordered : (Value.table table).Ordered) :
    (∀ name text, table.properties.find? name = some text ↔
      ∃ path value, (Value.table table).Holds path value ∧ nameOf path = name ∧
        value.display = text ∧ ∀ other content, (Value.table table).Holds other content →
          nameOf other = name → other ≤ path) ∧
    (∀ content, (Value.text content).display = content) ∧
    ∀ path, nameOf path = Text.joinStrings "." path ↔ ∀ key rest, path ≠ "" :: key :: rest := by
  refine ⟨fun name text => ?_, fun _ => rfl, fun _ => nameOf_eq_iff⟩
  have decreasing : (placesBelow table).reverse.Pairwise fun left right => right.1 < left.1 :=
    List.pairwise_reverse.mpr ordered.places_increasing
  rw [find?_properties, lookup_eq_some_iff decreasing]
  simp only [List.mem_reverse, mem_placesBelow, property, foldl_nameBelow_empty,
    Prod.exists, Prod.forall, Prod.mk.injEq, and_assoc]

theorem ordered_two {first second key : String} {deep late : Value} (less : first < second)
    (deepLeaf : deep.isTable = false) (lateLeaf : late.isTable = false) :
    (Value.table [(first, .table [(key, deep)]), (second, late)]).Ordered := by
  refine .table (by simpa using less) fun found inner member => ?_
  rcases List.mem_pair.mp member with same | same <;> cases same
  · refine .table (List.pairwise_singleton _ _) fun found inner member => ?_
    cases List.mem_singleton.mp member
    exact .leaf deepLeaf
  · exact .leaf lateLeaf

/-- Two values have one name here, since a key may hold a dot. -/
theorem properties_exact_shared_name :
    let table : Table := [("a", .table [("b", .integer 1)]), ("a.b", .text "late")]
    (Value.table table).Ordered ∧ ∃ path value, (Value.table table).Holds path value ∧
      nameOf path = "a.b" ∧ value.display = "late" ∧
        ∀ other content, (Value.table table).Holds other content → nameOf other = "a.b" →
          other ≤ path := by
  intro table
  have ordered : (Value.table table).Ordered := ordered_two (by decide) rfl rfl
  have found : table.properties.find? "a.b" = some "late" := by decide +kernel
  exact ⟨ordered, ((properties_exact ordered).1 "a.b" "late").mp found⟩

/-- A value below an empty key is not under its path, and where another value has the name that is
left of it, it is lost. -/
theorem value_lost_below_empty_key :
    let table : Table := [("", .table [("x", .integer 2)]), ("x", .integer 1)]
    (Value.table table).Ordered ∧ (Value.table table).Holds ["", "x"] (.integer 2) ∧
      Text.joinStrings "." ["", "x"] = ".x" ∧ table.properties.entries = [("x", "1")] ∧
      (properties? "x = 1\n['']\nx = 2\n").map SortedMap.entries = some [("x", "1")] :=
  ⟨ordered_two (by decide) rfl rfl,
    .entry List.mem_cons_self (.entry List.mem_cons_self (.leaf rfl)), by decide,
    by decide +kernel, by decide +kernel⟩

end Depot.Toml
