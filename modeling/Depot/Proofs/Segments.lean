import Depot.Path.Namespace
import Depot.Proofs.Keys

/-!
Segments of paths. Collapsing a path keeps its segments, except for those that are empty or a single
dot. What is collapsed has only segments that count, so it stays as it is when it is collapsed
again, and a name that is put behind a collapsed directory stays behind it.
-/

namespace Depot.Text

/-! ## Pieces and joints -/

theorem pieces_eq_splitOn (separator : Char) (text : List Char) :
    pieces separator text = text.splitOn separator := by
  induction text with
  | nil => rfl
  | cons first text induction =>
      rw [pieces_cons, List.splitOn_cons_eq_if_modifyHead, induction]
      cases cut : text.splitOn separator with
      | nil => exact absurd cut (List.splitOn_ne_nil separator text)
      | cons piece others => simp [growFirst]

theorem not_mem_of_mem_pieces {separator : Char} {text piece : List Char}
    (among : piece ∈ pieces separator text) : separator ∉ piece := by
  induction text generalizing piece with
  | nil =>
      rw [pieces_nil, List.mem_singleton] at among
      simp [among]
  | cons first text induction =>
      rw [pieces_cons] at among
      split at among
      · rcases List.mem_cons.mp among with rfl | among
        · simp
        · exact induction among
      next notHere =>
        rcases List.exists_cons_of_ne_nil (pieces_ne_nil separator text) with ⟨head, others, cut⟩
        rw [cut] at induction among
        rcases List.mem_cons.mp among with rfl | among
        · have inHead := induction List.mem_cons_self
          rw [List.mem_cons]
          intro given
          rcases given with rfl | member
          · exact notHere rfl
          · exact inHead member
        · exact induction (List.mem_cons_of_mem _ among)

theorem join_concat (separator : Char) (texts : List (List Char)) (last : List Char) :
    join [separator] (texts ++ [last]) = texts.flatMap (· ++ [separator]) ++ last := by
  induction texts with
  | nil => simp [join]
  | cons first texts induction =>
      cases texts with
      | nil => simp [join]
      | cons second texts =>
          rw [List.cons_append, List.cons_append, join_cons_cons, ← List.cons_append, induction]
          simp

theorem join_append (separator : Char) (left : List (List Char)) {right : List (List Char)}
    (nonempty : right ≠ []) :
    join [separator] (left ++ right) =
      left.flatMap (· ++ [separator]) ++ join [separator] right := by
  rcases List.eq_nil_or_concat right with nothing | ⟨others, last, rfl⟩
  · exact absurd nothing nonempty
  · rw [List.concat_eq_append, ← List.append_assoc, join_concat, join_concat]
    simp

/-- With a separator at the end, every piece has one behind it. -/
theorem join_append_separator (separator : Char) {texts : List (List Char)}
    (nonempty : texts ≠ []) :
    join [separator] texts ++ [separator] = texts.flatMap (· ++ [separator]) := by
  rcases List.eq_nil_or_concat texts with nothing | ⟨others, last, rfl⟩
  · exact absurd nothing nonempty
  · rw [List.concat_eq_append, join_concat]
    simp

/-- A text that is joined from pieces without separators has these pieces. -/
theorem pieces_join {separator : Char} {texts : List (List Char)}
    (plain : ∀ text ∈ texts, separator ∉ text) (nonempty : texts ≠ []) :
    pieces separator (join [separator] texts) = texts := by
  rw [pieces_eq_splitOn]
  exact List.splitOn_intercalate separator plain nonempty

theorem mem_of_mem_join {separator : List Char} {pieces : List (List Char)} {character : Char}
    (member : character ∈ join separator pieces) :
    character ∈ separator ∨ ∃ piece ∈ pieces, character ∈ piece := by
  induction pieces with
  | nil => cases member
  | cons piece pieces induction =>
      cases pieces with
      | nil => exact .inr ⟨piece, List.mem_singleton_self _, by simpa [join] using member⟩
      | cons next others =>
          rw [join_cons_cons, List.mem_append, List.mem_append, or_assoc] at member
          rcases member with here | between | later
          · exact .inr ⟨piece, List.mem_cons_self, here⟩
          · exact .inl between
          · exact (induction later).imp_right fun given =>
              given.imp fun _ found => ⟨List.mem_cons_of_mem _ found.1, found.2⟩

theorem mem_join_of_mem {separator piece : List Char} {pieces : List (List Char)}
    {character : Char} (isPiece : piece ∈ pieces) (member : character ∈ piece) :
    character ∈ join separator pieces := by
  induction pieces with
  | nil => cases isPiece
  | cons first pieces induction =>
      cases pieces with
      | nil =>
          cases List.mem_singleton.mp isPiece
          simpa [join] using member
      | cons next others =>
          rw [join_cons_cons, List.mem_append]
          rcases List.mem_cons.mp isPiece with rfl | later
          · exact .inl (List.mem_append_left _ member)
          · exact .inr (induction later)

theorem mem_of_mem_pieces {separator character : Char} {text piece : List Char}
    (isPiece : piece ∈ pieces separator text) (member : character ∈ piece) : character ∈ text := by
  rw [← join_pieces separator text]
  exact mem_join_of_mem isPiece member

end Depot.Text

namespace Depot.Namespace

variable {text front segment : List Char}

/-! ## Segments -/

/-- The segments of a text that count. -/
def segments (text : List Char) : List (List Char) :=
  (Text.pieces delimiter text).filter isProper

@[simp] theorem segments_nil : segments [] = [] := rfl

theorem segments_append_delimiter (left right : List Char) :
    segments (left ++ delimiter :: right) = segments left ++ segments right := by
  rw [segments, Text.pieces_eq_splitOn, List.splitOn_append_cons_self, List.filter_append,
    ← Text.pieces_eq_splitOn, ← Text.pieces_eq_splitOn]
  rfl

@[simp] theorem segments_delimiter_cons (text : List Char) :
    segments (delimiter :: text) = segments text :=
  segments_append_delimiter [] text

theorem segments_of_plain (proper : isProper segment = true) (plain : delimiter ∉ segment) :
    segments segment = [segment] := by
  rw [segments, Text.pieces_eq_splitOn, List.splitOn_eq_singleton plain]
  simp [proper]

theorem proper_of_mem_segments (member : segment ∈ segments text) :
    isProper segment = true ∧ delimiter ∉ segment := by
  rcases List.mem_filter.mp member with ⟨among, proper⟩
  exact ⟨proper, Text.not_mem_of_mem_pieces among⟩

/-- Joined segments are the segments of what they make. -/
theorem segments_join {texts : List (List Char)}
    (proper : ∀ segment ∈ texts, isProper segment = true ∧ delimiter ∉ segment) :
    segments (Text.join [delimiter] texts) = texts := by
  by_cases nothing : texts = []
  · rw [nothing]
    rfl
  · rw [segments, Text.pieces_join (fun segment member => (proper segment member).2) nothing,
      List.filter_eq_self]
    exact fun segment member => (proper segment member).1

theorem segments_flatMap {texts : List (List Char)}
    (proper : ∀ segment ∈ texts, isProper segment = true ∧ delimiter ∉ segment) :
    segments (texts.flatMap (· ++ [delimiter])) = texts := by
  induction texts with
  | nil => rfl
  | cons first texts induction =>
      rcases List.forall_mem_cons.mp proper with ⟨⟨isProper, plain⟩, proper⟩
      rw [List.flatMap_cons, List.append_assoc, List.singleton_append, segments_append_delimiter,
        segments_of_plain isProper plain, induction proper]
      rfl

theorem eq_of_improper (improper : isProper segment = false) : segment = [] ∨ segment = ['.'] := by
  by_cases nothing : segment = []
  · exact .inl nothing
  · right
    simpa [isProper, nothing] using improper

theorem segments_of_improper (improper : isProper segment = false) : segments segment = [] := by
  rcases eq_of_improper improper with rfl | rfl
  · rfl
  · decide

/-! ## Texts of directories -/

/-- Whether a text stands for a directory: it ends in a delimiter, or in a dot behind one. -/
def marksDirectory (text : List Char) : Bool :=
  Text.endsWith delimiter text ||
    (text.getLast? == some '.' && text.dropLast.getLast? == some delimiter)

/-- A text with a segment at its end does not stand for a directory. -/
theorem marksDirectory_append (front : List Char) (proper : isProper segment = true)
    (plain : delimiter ∉ segment) : marksDirectory (front ++ segment) = false := by
  rcases List.eq_nil_or_concat segment with nothing | ⟨others, last, rfl⟩
  · rw [nothing] at proper
    cases proper
  rw [List.concat_eq_append] at proper plain ⊢
  have notDelimiter : last ≠ delimiter := by
    intro same
    subst same
    simp at plain
  have notDotted : last = '.' → (front ++ others).getLast? ≠ some delimiter := by
    intro same
    subst same
    rcases List.eq_nil_or_concat others with nothing | ⟨before, previous, rfl⟩
    · rw [nothing] at proper
      cases proper
    · have previousNot : previous ≠ delimiter := by
        intro same
        subst same
        simp at plain
      rw [List.concat_eq_append, ← List.append_assoc]
      simpa using previousNot
  rw [← List.append_assoc, marksDirectory, Text.endsWith_concat]
  simpa [notDelimiter] using notDotted

/-- Neither does a text that is joined from segments. -/
theorem marksDirectory_joined {texts : List (List Char)} (front : List Char)
    (proper : ∀ segment ∈ texts, isProper segment = true ∧ delimiter ∉ segment)
    (nonempty : texts ≠ []) :
    marksDirectory (front ++ delimiter :: Text.join [delimiter] texts) = false := by
  rcases List.eq_nil_or_concat texts with nothing | ⟨others, last, rfl⟩
  · exact absurd nothing nonempty
  · rcases proper last (by simp) with ⟨isProper, plain⟩
    rw [List.concat_eq_append, Text.join_concat, ← List.cons_append, ← List.append_assoc]
    exact marksDirectory_append _ isProper plain

theorem marksDirectory_of_closed {text : List Char}
    (isClosed : Text.endsWith delimiter text = true) : marksDirectory text = true := by
  rw [marksDirectory, isClosed, Bool.true_or]

/-! ## Collapsing -/

theorem collapse_toList (text : String) :
    (collapse text).toList = delimiter :: Text.join [delimiter] (segments text.toList) ++
      (if marksDirectory text.toList && !(segments text.toList).isEmpty then [delimiter]
        else []) := by
  rw [collapse, String.toList_ofList]
  rfl

/-- What a text collapses to is known by its segments and by whether it stands for a directory. -/
theorem collapse_congr {left right : String}
    (sameSegments : segments left.toList = segments right.toList)
    (sameMark : marksDirectory left.toList = marksDirectory right.toList) :
    collapse left = collapse right := by
  rw [← String.toList_inj, collapse_toList, collapse_toList, sameSegments, sameMark]

theorem collapse_of_open {text : String} (isOpen : marksDirectory text.toList = false) :
    (collapse text).toList = delimiter :: Text.join [delimiter] (segments text.toList) := by
  rw [collapse_toList, isOpen]
  simp

/-- What collapses to a file does not stand for a directory. -/
theorem open_of_collapse {text : String} {rest : List Char}
    (whole : (collapse text).toList = delimiter :: rest) (something : rest ≠ [])
    (notClosed : Text.endsWith delimiter rest = false) :
    marksDirectory text.toList = false ∧ segments text.toList ≠ [] := by
  rw [collapse_toList, List.cons_append, List.cons_inj_right] at whole
  have hasSegments : segments text.toList ≠ [] := by
    intro nothing
    rw [nothing] at whole
    simp [Text.join] at whole
    exact something whole
  refine ⟨?_, hasSegments⟩
  cases marks : marksDirectory text.toList with
  | false => rfl
  | true =>
      have isSome : (segments text.toList).isEmpty = false := by simpa using hasSegments
      rw [marks, isSome] at whole
      rw [← whole] at notClosed
      simp at notClosed

/-- A collapsed directory has a delimiter behind every segment. -/
theorem collapse_of_marks {text : String} (marks : marksDirectory text.toList = true) :
    (collapse text).toList =
      delimiter :: (segments text.toList).flatMap (· ++ [delimiter]) := by
  rw [collapse_toList, marks]
  by_cases nothing : segments text.toList = []
  · rw [nothing]
    rfl
  · rw [← Text.join_append_separator delimiter nothing]
    simp [nothing]

theorem segments_collapse (text : String) :
    segments (collapse text).toList = segments text.toList := by
  have proper : ∀ segment ∈ segments text.toList,
      isProper segment = true ∧ delimiter ∉ segment := fun _ => proper_of_mem_segments
  cases marks : marksDirectory text.toList with
  | true => rw [collapse_of_marks marks, segments_delimiter_cons, segments_flatMap proper]
  | false => rw [collapse_of_open marks, segments_delimiter_cons, segments_join proper]

theorem collapse_of_closed {text : String} (isClosed : Text.endsWith delimiter text.toList = true) :
    (collapse text).toList =
      delimiter :: (segments text.toList).flatMap (· ++ [delimiter]) :=
  collapse_of_marks (marksDirectory_of_closed isClosed)

/-- A name below a directory comes behind the collapsed directory. -/
theorem collapse_below {path name : String} (isClosed : Text.endsWith delimiter path.toList = true)
    (proper : isProper name.toList = true) (plain : delimiter ∉ name.toList) :
    collapse (path ++ "/" ++ name) = collapse path ++ name := by
  rcases Text.endsWith_iff.mp isClosed with ⟨front, isPath⟩
  have whole : (path ++ "/" ++ name).toList = (front ++ [delimiter, delimiter]) ++ name.toList := by
    rw [String.toList_append, String.toList_append, isPath]
    simp [delimiter]
  have isOpen : marksDirectory (path ++ "/" ++ name).toList = false := by
    rw [whole]
    exact marksDirectory_append _ proper plain
  have below : segments (path ++ "/" ++ name).toList = segments path.toList ++ [name.toList] := by
    rw [whole, isPath, List.append_assoc]
    simp [segments_append_delimiter, segments_of_plain proper plain]
  rw [← String.toList_inj, collapse_of_open isOpen, below, Text.join_concat, String.toList_append,
    collapse_of_closed isClosed]
  rfl

/-- A directory below a directory comes behind the collapsed directory as well. -/
theorem collapse_below_closed {path name : String}
    (isClosed : Text.endsWith delimiter path.toList = true)
    (proper : isProper name.toList = true) (plain : delimiter ∉ name.toList) :
    collapse (path ++ "/" ++ (name ++ "/")) = collapse path ++ (name ++ "/") := by
  rcases Text.endsWith_iff.mp isClosed with ⟨front, isPath⟩
  have whole : (path ++ "/" ++ (name ++ "/")).toList =
      front ++ delimiter :: delimiter :: (name.toList ++ delimiter :: []) := by
    simp [isPath, Text.slash_toList]
  have closedBelow : Text.endsWith delimiter (path ++ "/" ++ (name ++ "/")).toList = true := by
    rw [← String.append_assoc]
    exact Text.endsWith_slash _
  have below : segments (path ++ "/" ++ (name ++ "/")).toList =
      segments path.toList ++ [name.toList] := by
    rw [whole, isPath]
    simp only [segments_append_delimiter, segments_delimiter_cons, segments_nil, List.append_nil,
      segments_of_plain proper plain]
  rw [← String.toList_inj, collapse_of_closed closedBelow, below, String.toList_append,
    collapse_of_closed isClosed, String.toList_append, Text.slash_toList]
  simp

/-- A name that does not count leads to the directory itself. -/
theorem collapse_below_improper {path name child : String}
    (isClosed : Text.endsWith delimiter path.toList = true)
    (improper : isProper name.toList = false) (isChild : child = name ∨ child = name ++ "/") :
    collapse (path ++ "/" ++ child) = collapse path := by
  rcases Text.endsWith_iff.mp isClosed with ⟨front, isPath⟩
  have nothing : segments child.toList = [] := by
    rcases isChild with rfl | rfl
    · exact segments_of_improper improper
    · rw [String.toList_append, Text.slash_toList, segments_append_delimiter,
        segments_of_improper improper]
      rfl
  have below : segments (path ++ "/" ++ child).toList = segments path.toList := by
    rw [String.toList_append, String.toList_append, isPath, Text.slash_toList]
    simp [segments_append_delimiter, nothing]
  have marks : marksDirectory (path ++ "/" ++ child).toList = true := by
    rw [marksDirectory]
    rcases isChild with rfl | rfl
    · rcases eq_of_improper improper with isName | isName
      · simp [isName, Text.slash_toList]
      · simp [isName, Text.slash_toList]
    · rw [← String.append_assoc, Text.endsWith_slash, Bool.true_or]
  rw [← String.toList_inj, collapse_of_marks marks, below, collapse_of_closed isClosed]

/-- A collapsed directory ends in a single delimiter. -/
theorem trimEnd_collapse {path : String} (isClosed : Text.endsWith delimiter path.toList = true) :
    Text.trimEnd delimiter (collapse path).toList ++ [delimiter] = (collapse path).toList := by
  rw [collapse_of_closed isClosed]
  rcases List.eq_nil_or_concat (segments path.toList) with nothing | ⟨others, last, whole⟩
  · rw [nothing]
    rfl
  · have isLast : last ∈ segments path.toList := by
      rw [whole]
      simp
    rcases proper_of_mem_segments isLast with ⟨proper, plain⟩
    have split : delimiter :: (segments path.toList).flatMap (· ++ [delimiter]) =
        (delimiter :: others.flatMap (· ++ [delimiter]) ++ last) ++ [delimiter] := by
      rw [whole]
      simp
    have isOpen := marksDirectory_append
      (delimiter :: others.flatMap (· ++ [delimiter])) proper plain
    rw [marksDirectory, Bool.or_eq_false_iff] at isOpen
    rw [split, Text.trimEnd_concat_self, Text.trimEnd_of_not_endsWith isOpen.1]

theorem endsWith_collapse {path : String} (isClosed : Text.endsWith delimiter path.toList = true) :
    Text.endsWith delimiter (collapse path).toList = true := by
  rw [← trimEnd_collapse isClosed, Text.endsWith_concat, beq_self_eq_true]

/-- What has been collapsed to a directory stays as it is. -/
theorem collapse_collapse {path : String} (isClosed : Text.endsWith delimiter path.toList = true) :
    collapse (collapse path) = collapse path := by
  apply collapse_congr (segments_collapse path)
  rw [marksDirectory_of_closed isClosed, marksDirectory_of_closed (endsWith_collapse isClosed)]

theorem segments_of_delimiters {front : List Char}
    (delimiters : ∀ character ∈ front, character = delimiter) (text : List Char) :
    segments (front ++ text) = segments text := by
  induction front with
  | nil => rfl
  | cons first front induction =>
      rw [delimiters first List.mem_cons_self, List.cons_append, segments_delimiter_cons]
      exact induction fun character member => delimiters character (List.mem_cons_of_mem _ member)

/-- What has been collapsed to a file stays as it is, however many delimiters are put in front. -/
theorem collapse_again {text other : String} {front : List Char}
    (isOpen : marksDirectory text.toList = false) (hasSegments : segments text.toList ≠ [])
    (delimiters : ∀ character ∈ front, character = delimiter)
    (whole : other.toList = front ++ (collapse text).toList) :
    collapse other = collapse text := by
  apply collapse_congr
  · rw [whole, segments_of_delimiters delimiters, segments_collapse]
  · rw [whole, isOpen, collapse_of_open isOpen]
    exact marksDirectory_joined front (fun _ => proper_of_mem_segments) hasSegments

/-! ## Below a directory -/

theorem isProper_of_open (isOpen : marksDirectory (front ++ delimiter :: segment) = false) :
    isProper segment = true := by
  cases proper : isProper segment with
  | true => rfl
  | false =>
      rcases eq_of_improper proper with rfl | rfl
      · simp [marksDirectory] at isOpen
      · simp [marksDirectory] at isOpen

/-- What does not stand for a directory has a segment behind every delimiter. -/
theorem segments_ne_nil_of_open (isOpen : marksDirectory (front ++ delimiter :: text) = false) :
    segments text ≠ [] := by
  by_cases member : delimiter ∈ text
  · rcases List.eq_append_cons_of_mem (List.mem_reverse.mpr member) with
      ⟨last, before, reversed, plain⟩
    have whole : text = before.reverse ++ delimiter :: last.reverse := by
      rw [← List.reverse_reverse text, reversed]
      simp
    rw [whole, ← List.cons_append, ← List.append_assoc] at isOpen
    rw [whole, segments_append_delimiter,
      segments_of_plain (isProper_of_open isOpen) (by simpa using plain)]
    simp
  · rw [segments_of_plain (isProper_of_open isOpen) member]
    exact List.cons_ne_nil _ _

/-- A text that is no directory comes behind the collapsed directory, with its segments joined. -/
theorem collapse_beneath {path name : String}
    (isOpen : marksDirectory (path ++ "/" ++ name).toList = false) :
    segments name.toList ≠ [] ∧ (collapse (path ++ "/" ++ name)).toList =
      (collapse (path ++ "/")).toList ++ Text.join [delimiter] (segments name.toList) := by
  have whole : (path ++ "/" ++ name).toList = path.toList ++ delimiter :: name.toList := by
    simp [Text.slash_toList]
  have appended : (path ++ "/").toList = path.toList ++ delimiter :: [] := by
    simp [Text.slash_toList]
  have hasSegments : segments name.toList ≠ [] := segments_ne_nil_of_open (whole ▸ isOpen)
  refine ⟨hasSegments, ?_⟩
  rw [collapse_of_open isOpen, collapse_of_closed (Text.endsWith_slash path), whole, appended,
    segments_append_delimiter, segments_append_delimiter, Text.join_append delimiter _ hasSegments,
    segments_nil, List.append_nil, List.cons_append]

/-! ## What collapsing keeps -/

/-- The segments of joined texts are those of each of them, one after another. -/
theorem segments_join_eq_flatMap (texts : List (List Char)) :
    segments (Text.join [delimiter] texts) = texts.flatMap segments := by
  induction texts with
  | nil => rfl
  | cons first texts induction =>
      cases texts with
      | nil => simp [Text.join]
      | cons second texts =>
          rw [Text.join_cons_cons, List.append_assoc, List.singleton_append,
            segments_append_delimiter, induction, ← List.flatMap_cons]

/-- Whether a text stands for a directory is seen behind any of its delimiters. -/
theorem marksDirectory_append_delimiter (front text : List Char) :
    marksDirectory (front ++ delimiter :: text) = marksDirectory (delimiter :: text) := by
  rcases List.eq_nil_or_concat text with rfl | ⟨others, last, rfl⟩
  · rw [marksDirectory, Text.endsWith_concat]
    rfl
  · have whole : front ++ delimiter :: others.concat last =
        front ++ delimiter :: others ++ [last] := by
      simp
    have alone : delimiter :: others.concat last = delimiter :: others ++ [last] := by
      simp
    have previous : ((front ++ delimiter :: others).getLast? == some delimiter) =
        ((delimiter :: others).getLast? == some delimiter) :=
      Text.endsWith_append front (List.cons_ne_nil _ _)
    rw [whole, alone, marksDirectory, marksDirectory, Text.endsWith_concat, Text.endsWith_concat,
      List.getLast?_concat, List.getLast?_concat, List.dropLast_concat, List.dropLast_concat,
      previous]

/-- A collapsed text is joined from its segments, with an empty piece in front of them, and one
behind them if it stands for a directory or has no segments. -/
theorem collapse_eq_join (text : String) :
    (collapse text).toList = Text.join [delimiter] ([] :: segments text.toList ++
      if segments text.toList = [] ∨ marksDirectory text.toList = true then [[]] else []) := by
  by_cases nothing : segments text.toList = []
  · rw [collapse_toList, nothing]
    simp [Text.join]
  cases marks : marksDirectory text.toList with
  | true =>
      rw [collapse_of_marks marks, if_pos (.inr rfl), Text.join_concat]
      simp
  | false =>
      rcases List.exists_cons_of_ne_nil nothing with ⟨first, others, whole⟩
      rw [collapse_of_open marks, if_neg (by simp [nothing]), List.append_nil, whole,
        Text.join_cons_cons]
      rfl

/-- A collapsed text ends in a delimiter if it stands for a directory or has no segments. -/
theorem endsWith_collapse_iff (text : String) :
    Text.endsWith delimiter (collapse text).toList = true ↔
      segments text.toList = [] ∨ marksDirectory text.toList = true := by
  rw [collapse_eq_join]
  by_cases closes : segments text.toList = [] ∨ marksDirectory text.toList = true
  · rw [if_pos closes, Text.join_concat, List.append_nil]
    simp only [closes, iff_true]
    rcases List.eq_nil_or_concat ([] :: segments text.toList) with nothing | ⟨others, last, whole⟩
    · cases nothing
    · rw [whole, List.concat_eq_append, List.flatMap_append, List.flatMap_singleton,
        ← List.append_assoc, Text.endsWith_concat, beq_self_eq_true]
  · rw [if_neg closes, List.append_nil]
    simp only [closes, iff_false, Bool.not_eq_true]
    rcases List.exists_cons_of_ne_nil (not_or.mp closes).1 with ⟨first, others, whole⟩
    have isOpen := marksDirectory_joined [] (fun _ => proper_of_mem_segments) (not_or.mp closes).1
    rw [marksDirectory, Bool.or_eq_false_iff] at isOpen
    rw [whole] at isOpen ⊢
    rw [Text.join_cons_cons]
    exact isOpen.1

/-- The pieces of a collapsed text are its segments, between the empty one in front of the first
delimiter and, if the text ends in a delimiter, the empty one behind it. -/
theorem pieces_collapse (text : String) :
    Text.pieces delimiter (collapse text).toList =
      [] :: segments text.toList ++
        if Text.endsWith delimiter (collapse text).toList = true then [[]] else [] := by
  have plain : ∀ piece ∈ ([] :: segments text.toList ++
      if segments text.toList = [] ∨ marksDirectory text.toList = true then [[]] else []),
      delimiter ∉ piece := by
    intro piece among
    rcases List.mem_append.mp among with among | among
    · rcases List.mem_cons.mp among with rfl | among
      · exact List.not_mem_nil
      · exact (proper_of_mem_segments among).2
    · split at among
      · rw [List.mem_singleton.mp among]
        exact List.not_mem_nil
      · cases among
  simp only [endsWith_collapse_iff]
  rw [collapse_eq_join, Text.pieces_join plain (by simp)]

end Depot.Namespace
