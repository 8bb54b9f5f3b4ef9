import Depot.Proofs.Locations

/-!
Where components lead from a base. The text of a base and its components is joined and collapsed,
so what comes of it has the segments of the base and then those of the components, in order and with
nothing between them. It does not matter how many components are joined at once, and a directory is
the same path with a delimiter at its end.
-/

namespace Depot

namespace LogicalPath

/-- Paths are the same if all their parts are. -/
theorem ext {left right : LogicalPath} (sameScheme : left.scheme = right.scheme)
    (sameHost : left.host = right.host) (samePath : left.path = right.path) : left = right := by
  cases left
  cases right
  simp_all

theorem toList_asDirectory (path : LogicalPath) :
    path.asDirectory.path.toList =
      if path.isDirectory = true then path.path.toList else path.path.toList ++ [delimiter] := by
  unfold asDirectory
  split
  · rfl
  · exact String.toList_append

@[simp] theorem scheme_asDirectory (path : LogicalPath) :
    path.asDirectory.scheme = path.scheme := by
  unfold asDirectory
  split <;> rfl

@[simp] theorem host_asDirectory (path : LogicalPath) : path.asDirectory.host = path.host := by
  unfold asDirectory
  split <;> rfl

end LogicalPath

namespace Namespace

variable {layout : Namespace} {base : LogicalPath} {components : List String}

/-! ## The joined text -/

/-- The text of a base with components behind it. -/
def trail (base : LogicalPath) (components : List String) : String :=
  base.path ++ "/" ++ Text.joinStrings "/" components

theorem trail_toList (base : LogicalPath) (components : List String) :
    (trail base components).toList =
      base.path.toList ++ delimiter :: Text.join [delimiter] (components.map String.toList) := by
  simp [trail, Text.joinStrings, Text.slash_toList]

theorem segments_trail (base : LogicalPath) (components : List String) :
    segments (trail base components).toList =
      segments base.path.toList ++ components.flatMap fun component => segments component.toList := by
  rw [trail_toList, segments_append_delimiter, segments_join_eq_flatMap, List.flatMap_map]

/-- A joined text stands for a directory as its components do, whatever they are joined to. -/
theorem marksDirectory_trail (base : LogicalPath) (components : List String) :
    marksDirectory (trail base components).toList =
      marksDirectory (delimiter :: Text.join [delimiter] (components.map String.toList)) := by
  rw [trail_toList, marksDirectory_append_delimiter]

/-- The last components alone tell whether joined components stand for a directory. -/
theorem marksDirectory_join_append (left : List (List Char)) {right : List (List Char)}
    (nonempty : right ≠ []) :
    marksDirectory (delimiter :: Text.join [delimiter] (left ++ right)) =
      marksDirectory (delimiter :: Text.join [delimiter] right) := by
  by_cases nothing : left = []
  · rw [nothing, List.nil_append]
  · have split : delimiter :: Text.join [delimiter] (left ++ right) =
        delimiter :: Text.join [delimiter] left ++ delimiter :: Text.join [delimiter] right := by
      rw [Text.join_append delimiter left nonempty,
        ← Text.join_append_separator delimiter nothing]
      simp
    rw [split, marksDirectory_append_delimiter]

/-- A text stands for a directory if it ends in the delimiter, or in a dot behind one. -/
theorem marksDirectory_iff {text : List Char} :
    marksDirectory text = true ↔ [delimiter] <:+ text ∨ [delimiter, '.'] <:+ text := by
  have ends : Text.endsWith delimiter text = true ↔ [delimiter] <:+ text := by
    rw [Text.endsWith_iff]
    exact exists_congr fun front => eq_comm
  have dotted : (text.getLast? == some '.' && text.dropLast.getLast? == some delimiter) = true ↔
      [delimiter, '.'] <:+ text := by
    simp only [Bool.and_eq_true, beq_iff_eq, List.getLast?_eq_some_iff]
    constructor
    · rintro ⟨⟨front, rfl⟩, others, isFront⟩
      rw [List.dropLast_concat] at isFront
      exact ⟨others, by simp [isFront]⟩
    · rintro ⟨others, rfl⟩
      exact ⟨⟨others ++ [delimiter], by simp⟩, others, by simp⟩
  rw [marksDirectory, Bool.or_eq_true, ends, dotted]

/-! ## Joining any number of components -/

/-- Where components start from. In the flat namespace, a single component that holds a delimiter is
a full key and starts from the root. -/
def origin (layout : Namespace) (base : LogicalPath) : (components : List String) → LogicalPath
  | [single] => if layout = .flat ∧ delimiter ∈ single.toList then layout.root else base
  | _ => base

/-- The path that components lead to. -/
def below (base : LogicalPath) (components : List String) : LogicalPath :=
  .make base.scheme base.host (collapse (trail base components))

theorem path_below (base : LogicalPath) (components : List String) :
    (below base components).path = collapse (trail base components) :=
  path_make_collapse _ _ _

theorem host_below (base : LogicalPath) (components : List String) :
    (below base components).host = base.host :=
  host_make _ _ _

/-- A path is known by its segments, and by whether its text stands for a directory. -/
theorem below_congr {left right : LogicalPath} {early late : List String}
    (sameScheme : left.scheme = right.scheme) (sameHost : left.host = right.host)
    (sameSegments : segments (trail left early).toList = segments (trail right late).toList)
    (sameMark : marksDirectory (trail left early).toList =
      marksDirectory (trail right late).toList) :
    below left early = below right late := by
  rw [below, below, sameScheme, sameHost, collapse_congr sameSegments sameMark]

/-- From the root, it does not matter whether its own text stands in front. -/
theorem collapse_root (layout : Namespace) (components : List String) :
    collapse ("/" ++ Text.joinStrings "/" components) = collapse (trail layout.root components) := by
  have isRoot : layout.root.path.toList = [delimiter] := by
    cases layout <;> decide
  have alone : ("/" ++ Text.joinStrings "/" components).toList =
      delimiter :: Text.join [delimiter] (components.map String.toList) := by
    simp [Text.joinStrings, Text.slash_toList]
  apply collapse_congr
  · rw [alone, trail_toList, isRoot, segments_append_delimiter, segments_delimiter_cons]
    rfl
  · rw [alone, marksDirectory_trail]

theorem resolveAs_eq (asDirectory : Bool) (sameScheme : base.scheme = layout.scheme)
    (nonempty : asDirectory = true → components ≠ []) :
    layout.resolveAs asDirectory base components =
      .ok (below (layout.origin base components)
        (if asDirectory then closeLast components else components)) := by
  have notEmpty : (asDirectory && components.isEmpty) = false := by
    cases asDirectory with
    | false => rfl
    | true => simpa using nonempty rfl
  unfold resolveAs
  rw [if_neg (not_not_intro sameScheme), notEmpty, if_neg Bool.false_ne_true]
  dsimp only
  generalize (if asDirectory = true then closeLast components else components) = parts
  have toBase : LogicalPath.make layout.scheme base.host
      (collapse (base.path ++ "/" ++ Text.joinStrings "/" parts)) = below base parts := by
    rw [below, sameScheme, trail]
  split
  next single =>
    rw [origin]
    by_cases qualified : delimiter ∈ single.toList
    · rw [if_pos qualified, if_pos ⟨rfl, qualified⟩, collapse_root]
      rfl
    · rw [if_neg qualified, if_neg (fun both => qualified both.2), toBase]
  next other =>
    rw [toBase]
    unfold origin
    split
    next single =>
      rw [if_neg]
      rintro ⟨rfl, -⟩
      exact other single rfl rfl
    · rfl

theorem resolve_eq (sameScheme : base.scheme = layout.scheme) :
    layout.resolve base components = .ok (below (layout.origin base components) components) :=
  resolveAs_eq false sameScheme (fun impossible => nomatch impossible)

theorem resolveDirectory_eq (sameScheme : base.scheme = layout.scheme)
    (nonempty : components ≠ []) :
    layout.resolveDirectory base components =
      .ok (below (layout.origin base components) (closeLast components)) :=
  resolveAs_eq true sameScheme (fun _ => nonempty)

theorem origin_eq_or (layout : Namespace) (base : LogicalPath) (components : List String) :
    layout.origin base components = layout.root ∨ layout.origin base components = base := by
  unfold origin
  split
  · split
    · exact .inl rfl
    · exact .inr rfl
  · exact .inr rfl

theorem origin_of_plain
    (plain : layout = .hierarchical ∨ ∀ component ∈ components, delimiter ∉ component.toList) :
    layout.origin base components = base := by
  unfold origin
  split
  next single =>
    rw [if_neg]
    rintro ⟨rfl, qualified⟩
    rcases plain with impossible | plain
    · cases impossible
    · exact plain single List.mem_cons_self qualified
  · rfl

/-! ## What is joined -/

/-- How a path lies below a base. The scheme and the host are those of the base. Apart from the
empty pieces in front of the first delimiter and behind the last, the path has no pieces but the
segments of the base and then those of the components. It ends in a delimiter if it is the bare
root, and else if the joined text ends in one, or in a dot behind one. -/
structure LiesBelow (base : LogicalPath) (components : List String) (path : LogicalPath) :
    Prop where
  scheme : path.scheme = base.scheme
  host : path.host = base.host
  pieces : Text.pieces delimiter path.path.toList =
    [] :: (segments base.path.toList ++ components.flatMap fun component =>
      segments component.toList) ++ if path.isDirectory then [[]] else []
  isDirectory_iff : path.isDirectory = true ↔ path.path = "/" ∨
    [delimiter] <:+ (base.path ++ "/" ++ Text.joinStrings "/" components).toList ∨
    [delimiter, '.'] <:+ (base.path ++ "/" ++ Text.joinStrings "/" components).toList

theorem collapse_eq_slash_iff {text : String} :
    collapse text = "/" ↔ segments text.toList = [] := by
  constructor
  · intro isSlash
    rw [← segments_collapse, isSlash]
    rfl
  · intro nothing
    rw [← String.toList_inj, collapse_toList, nothing]
    simp [Text.join, Text.slash_toList]

theorem liesBelow_below (base : LogicalPath) (components : List String) :
    LiesBelow base components (below base components) where
  scheme := rfl
  host := host_below base components
  pieces := by
    rw [LogicalPath.isDirectory, path_below, pieces_collapse, segments_trail]
  isDirectory_iff := by
    rw [LogicalPath.isDirectory, path_below, endsWith_collapse_iff, collapse_eq_slash_iff,
      marksDirectory_iff, trail]

/-- Components can be joined in several steps. -/
theorem below_append (base : LogicalPath) (components : List String) {more : List String}
    (nonempty : more ≠ []) :
    below base (components ++ more) = below (below base components) more := by
  apply below_congr
  · rfl
  · rw [host_below]
  · rw [segments_trail, segments_trail, path_below, segments_collapse, segments_trail,
      List.flatMap_append, List.append_assoc]
  · have someTexts : more.map String.toList ≠ [] := by simpa using nonempty
    rw [marksDirectory_trail, marksDirectory_trail, List.map_append,
      marksDirectory_join_append _ someTexts]

/-! ## Directories -/

theorem segments_closed (text : String) : segments (closed text).toList = segments text.toList := by
  unfold closed
  split
  · rfl
  · rw [String.toList_append, Text.slash_toList, segments_append_delimiter]
    simp

theorem segments_closeLast (components : List String) :
    (closeLast components).flatMap (fun component => segments component.toList) =
      components.flatMap fun component => segments component.toList := by
  rcases List.eq_nil_or_concat components with rfl | ⟨front, last, rfl⟩
  · rfl
  · rw [List.concat_eq_append, closeLast_concat, List.flatMap_append, List.flatMap_append,
      List.flatMap_singleton, List.flatMap_singleton, segments_closed]

theorem marksDirectory_closeLast (base : LogicalPath) (nonempty : components ≠ []) :
    marksDirectory (trail base (closeLast components)).toList = true := by
  have isClosed := endsWith_joinStrings_closeLast nonempty
  apply marksDirectory_of_closed
  rw [trail, String.toList_append, Text.endsWith_append _ (Text.ne_nil_of_endsWith isClosed),
    isClosed]

/-- A delimiter at the end of the last component makes the path a directory. -/
theorem below_closeLast (base : LogicalPath) (nonempty : components ≠ []) :
    below base (closeLast components) = (below base components).asDirectory := by
  have sameSegments : segments (trail base (closeLast components)).toList =
      segments (trail base components).toList := by
    rw [segments_trail, segments_trail, segments_closeLast]
  apply LogicalPath.ext
  · rw [LogicalPath.scheme_asDirectory]
    rfl
  · rw [LogicalPath.host_asDirectory, host_below, host_below]
  · have marks := marksDirectory_closeLast base nonempty
    rw [← String.toList_inj, LogicalPath.toList_asDirectory, LogicalPath.isDirectory, path_below,
      path_below]
    by_cases closes : segments (trail base components).toList = [] ∨
        marksDirectory (trail base components).toList = true
    · rw [if_pos ((endsWith_collapse_iff _).mpr closes), collapse_eq_join, collapse_eq_join,
        sameSegments, if_pos (.inr marks), if_pos closes]
    · rw [if_neg (mt (endsWith_collapse_iff _).mp closes), collapse_eq_join, collapse_eq_join,
        sameSegments, if_pos (.inr marks), if_neg closes, List.append_nil,
        Text.join_append_separator delimiter (by simp), Text.join_concat, List.append_nil]

/-- Components lead to a canonical path. It lies below its base, or below the root if a single
component of the flat namespace is a full key. Components that are joined in two steps lead to the
same path, unless one of them could be taken for a full key. The directory that components lead to
is the path that they lead to, taken as a directory. -/
theorem resolve_canonical (layout : Namespace) {base : LogicalPath}
    (sameScheme : base.scheme = layout.scheme) (components : List String) :
    (∃ path, layout.resolve base components = .ok path ∧
      LiesBelow (layout.origin base components) components path) ∧
    (∀ more, more ≠ [] → (layout = .hierarchical ∨
        ∀ component ∈ components ++ more, delimiter ∉ component.toList) →
      layout.resolve base (components ++ more) =
        layout.resolve base components >>= fun middle => layout.resolve middle more) ∧
    (components ≠ [] → layout.resolveDirectory base components =
      (layout.resolve base components).map LogicalPath.asDirectory) := by
  refine ⟨⟨_, resolve_eq sameScheme, liesBelow_below _ _⟩, ?steps, ?directory⟩
  case steps =>
    intro more nonempty plain
    have plainEarly : layout = .hierarchical ∨
        ∀ component ∈ components, delimiter ∉ component.toList :=
      plain.imp_right fun plain component among => plain component (List.mem_append_left _ among)
    have plainLate : layout = .hierarchical ∨
        ∀ component ∈ more, delimiter ∉ component.toList :=
      plain.imp_right fun plain component among => plain component (List.mem_append_right _ among)
    rw [resolve_eq sameScheme, resolve_eq sameScheme, origin_of_plain plain,
      origin_of_plain plainEarly, below_append base components nonempty]
    have sameAgain : (below base components).scheme = layout.scheme := sameScheme
    change _ = layout.resolve (below base components) more
    rw [resolve_eq sameAgain, origin_of_plain plainLate]
  case directory =>
    intro nonempty
    rw [resolveDirectory_eq sameScheme nonempty, resolve_eq sameScheme, below_closeLast _ nonempty]
    rfl

private def attic : LogicalPath := .make .s3 (some "house") "/old//./chest"

theorem resolve_canonical_attic :
    attic.scheme = Namespace.hierarchical.scheme ∧
    (∃ path, hierarchical.resolve attic ["./drawer/", "..", "box/."] = .ok path ∧
      path.uri = "s3://house/old/chest/drawer/../box/" ∧
      LiesBelow attic ["./drawer/", "..", "box/."] path) ∧
    hierarchical.resolve attic ["./drawer/", "..", "box/."] =
      (hierarchical.resolve attic ["./drawer/"] >>= fun middle =>
        hierarchical.resolve middle ["..", "box/."]) ∧
    hierarchical.resolveDirectory attic ["./drawer/", "..", "box"] =
      (hierarchical.resolve attic ["./drawer/", "..", "box"]).map LogicalPath.asDirectory := by
  have sameScheme : attic.scheme = Namespace.hierarchical.scheme := rfl
  rcases resolve_canonical .hierarchical sameScheme ["./drawer/", "..", "box/."] with
    ⟨⟨path, resolved, lies⟩, -, -⟩
  rcases resolve_canonical .hierarchical sameScheme ["./drawer/"] with ⟨-, steps, -⟩
  rcases resolve_canonical .hierarchical sameScheme ["./drawer/", "..", "box"] with
    ⟨-, -, directory⟩
  have isText : (hierarchical.resolve attic ["./drawer/", "..", "box/."]).toOption.map
      LogicalPath.uri = some "s3://house/old/chest/drawer/../box/" := by decide +kernel
  rw [resolved] at isText
  exact ⟨sameScheme, ⟨path, resolved, Option.some.inj isText, lies⟩,
    steps ["..", "box/."] (List.cons_ne_nil _ _) (.inl rfl), directory (List.cons_ne_nil _ _)⟩

/-- A full key of the flat namespace starts from the root, wherever it is joined. -/
example : (flat.resolve (.make .swarm (some "house") "/old") ["chest//key"]).toOption.map
    LogicalPath.uri = some "swarm:///chest/key" := by decide

end Namespace

end Depot
