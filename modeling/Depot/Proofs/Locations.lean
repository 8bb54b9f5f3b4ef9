import Depot.Proofs.Segments

/-!
Locations, joined paths, and their keys. A location becomes the path of a directory, and its host, if
it has one, holds no delimiter. A single component is joined onto the text of its base and collapsed,
or collapsed on its own. The key of a path is its text behind the host; without a host, it is the
text without the delimiter in front.
-/

namespace Depot

namespace Scheme

theorem afterName?_eq_some {name text rest : List Char} (found : afterName? name text = some rest) :
    ∃ lead, text = lead ++ ':' :: rest := by
  fun_induction afterName? name text with
  | case1 rest =>
      cases found
      exact ⟨[], rfl⟩
  | case2 text notColon => cases found
  | case3 expected name => cases found
  | case4 name first text induction =>
      rcases induction found with ⟨lead, rfl⟩
      exact ⟨first :: lead, rfl⟩
  | case5 expected name first text different => cases found

theorem split?_eq_some {raw rest : String} {scheme : Scheme}
    (found : split? raw = some (scheme, rest)) :
    ∃ lead, raw.toList = lead ++ ':' :: rest.toList := by
  unfold split? at found
  split at found
  · next behind isBehind =>
    cases found
    rw [String.toList_ofList]
    exact afterName?_eq_some isBehind
  · rcases Option.map_eq_some_iff.mp found with ⟨behind, isBehind, same⟩
    cases same
    rw [String.toList_ofList]
    exact afterName?_eq_some isBehind

theorem afterName?_append {name text rest : List Char}
    (found : afterName? name text = some rest) (more : List Char) :
    afterName? name (text ++ more) = some (rest ++ more) := by
  fun_induction afterName? name text with
  | case1 rest =>
      cases found
      rfl
  | case2 text notColon => cases found
  | case3 expected name => cases found
  | case4 name first text induction =>
      rw [List.cons_append, afterName?, if_pos rfl]
      exact induction found
  | case5 expected name first text different => cases found

/-- A text that has a scheme still has one with more text behind it. -/
theorem isSome_split?_append {raw : String} (found : (split? raw).isSome = true)
    (more : String) : (split? (raw ++ more)).isSome = true := by
  unfold split? at found ⊢
  rw [String.toList_append]
  cases isFirst : afterName? Scheme.s3.name.toList raw.toList with
  | some rest =>
      rw [afterName?_append isFirst]
      rfl
  | none =>
      rw [isFirst] at found
      rcases Option.isSome_iff_exists.mp (Option.isSome_map.symm.trans found) with ⟨rest, isSecond⟩
      cases afterName? Scheme.s3.name.toList (raw.toList ++ more.toList) with
      | some other => rfl
      | none =>
          rw [afterName?_append isSecond]
          rfl

end Scheme

namespace LogicalPath

theorem path_eq_cons (path : LogicalPath) : ∃ rest, path.path.toList = delimiter :: rest :=
  List.head?_eq_some_iff.mp path.path_starts

theorem endsWith_rooted {text : String} (isClosed : Text.endsWith delimiter text.toList = true) :
    Text.endsWith delimiter (rooted text).toList = true := by
  rcases Text.endsWith_iff.mp isClosed with ⟨before, whole⟩
  unfold rooted
  split
  · exact isClosed
  · rw [String.toList_append, whole, ← List.append_assoc, Text.endsWith_concat]
    rfl

theorem path_make (scheme : Scheme) (host : Option String) (text : String) :
    (make scheme host text).path = rooted text := rfl

theorem host_of_make {scheme : Scheme} {host : Option String} {text kept : String}
    (isHost : (make scheme host text).host = some kept) : host = some kept := by
  have filtered : host.filter (· != "") = some kept := isHost
  exact (Option.filter_eq_some_iff.mp filtered).1

/-- A path that is read from a text with a delimiter at its end is a directory, and the host that is
read holds no delimiter. -/
theorem parse_eq_ok {raw : String} {path : LogicalPath} (parsed : parse raw = .ok path) :
    (Text.endsWith delimiter raw.toList = true → path.isDirectory = true) ∧
      ∀ host, path.host = some host → delimiter ∉ host.toList := by
  unfold parse at parsed
  split at parsed
  · cases parsed
  next scheme rest found =>
    rcases Scheme.split?_eq_some found with ⟨lead, whole⟩
    have restClosed (isClosed : Text.endsWith delimiter raw.toList = true) :
        Text.endsWith delimiter rest.toList = true := by
      rw [whole, Text.endsWith_append lead (by simp)] at isClosed
      cases chars : rest.toList with
      | nil =>
          rw [chars] at isClosed
          cases isClosed
      | cons first others =>
          rw [chars] at isClosed
          exact (Text.endsWith_append [':'] (by simp)).symm.trans isClosed
    split at parsed
    · cases parsed
      exact ⟨fun isClosed => endsWith_rooted (restClosed isClosed), by simp [make]⟩
    next authority dropped =>
      rw [Text.dropLead?_eq_some_iff] at dropped
      split at parsed
      · next host behind cut =>
        cases parsed
        rcases Text.cutAt?_eq_some cut with ⟨isAuthority, plain⟩
        rw [dropped, isAuthority, ← List.append_assoc, Text.endsWith_append _ (by simp)]
          at restClosed
        refine ⟨fun isClosed => endsWith_rooted ?_, ?_⟩
        · rw [String.toList_ofList]
          exact restClosed isClosed
        intro other isHost
        cases host_of_make isHost
        rwa [String.toList_ofList]
      · next absent =>
        cases parsed
        refine ⟨fun _ => endsWith_rooted (by decide), ?_⟩
        intro other isHost
        cases host_of_make isHost
        rw [String.toList_ofList]
        exact Text.cutAt?_eq_none_iff.mp absent

theorem exists_parse {raw : String} (found : (Scheme.split? raw).isSome = true) :
    ∃ path, parse raw = .ok path := by
  unfold parse
  split
  next absent =>
    rw [absent] at found
    cases found
  · split
    · exact ⟨_, rfl⟩
    · split <;> exact ⟨_, rfl⟩

end LogicalPath

namespace Namespace

theorem endsWith_closed (text : String) : Text.endsWith delimiter (closed text).toList = true := by
  unfold closed
  split
  · assumption
  · exact Text.endsWith_slash text

/-- A location becomes a directory. -/
theorem normalize_eq_ok {layout : Namespace} {location : String} {path : LogicalPath}
    (normalized : layout.normalize location = .ok path) :
    path.isDirectory = true ∧ ∀ host, path.host = some host → delimiter ∉ host.toList := by
  unfold normalize at normalized
  split at normalized
  · cases normalized
  split at normalized
  · exact (LogicalPath.parse_eq_ok normalized).imp_left fun closes =>
      closes (endsWith_closed location)
  · cases normalized
    refine ⟨LogicalPath.endsWith_rooted (endsWith_closed _), ?_⟩
    intro host isHost
    cases LogicalPath.host_of_make isHost

/-- Every location but the empty one is normalized. -/
theorem exists_normalize (layout : Namespace) {location : String}
    (something : location ≠ "") : ∃ path, layout.normalize location = .ok path := by
  rw [normalize, if_neg something]
  split
  next owned =>
    apply LogicalPath.exists_parse
    have found : (Scheme.split? location).isSome = true := by
      rw [owns] at owned
      split at owned
      next isFound => rw [isFound, Option.isSome_some]
      · cases owned
    unfold closed
    split
    · exact found
    · exact Scheme.isSome_split?_append found "/"
  · exact ⟨_, rfl⟩

/-! ## Joining a single component -/

theorem head?_collapse (text : String) : (collapse text).toList.head? = some delimiter := by
  rw [collapse_toList]
  rfl

theorem path_make_collapse (scheme : Scheme) (host : Option String) (text : String) :
    (LogicalPath.make scheme host (collapse text)).path = collapse text := by
  rw [LogicalPath.path_make]
  exact if_pos (head?_collapse text)

theorem host_make (scheme : Scheme) (path : LogicalPath) (text : String) :
    (LogicalPath.make scheme path.host text).host = path.host := by
  change path.host.filter (· != "") = path.host
  cases isHost : path.host with
  | none => rfl
  | some host =>
      have nonempty : host ≠ "" := fun empty => path.host_ne_empty (by rw [isHost, empty])
      simp [Option.filter, nonempty]

theorem make_self (path : LogicalPath) : LogicalPath.make path.scheme path.host path.path = path := by
  have sameHost := host_make path.scheme path path.path
  have samePath : (LogicalPath.make path.scheme path.host path.path).path = path.path :=
    if_pos path.path_starts
  cases path
  simp_all [LogicalPath.make]

/-- Where a single component leads. In the flat namespace, one that holds a delimiter is taken from
the root. -/
def joined (layout : Namespace) (base : LogicalPath) (name : String) : LogicalPath :=
  if layout = .flat ∧ delimiter ∈ name.toList then
    .make layout.scheme none (collapse ("/" ++ name))
  else .make layout.scheme base.host (collapse (base.path ++ "/" ++ name))

theorem resolve_single {layout : Namespace} {base : LogicalPath} {name : String} :
    layout.resolve base [name] =
      if base.scheme = layout.scheme then .ok (layout.joined base name)
      else .error (.schemeMismatch layout.scheme base.uri) := by
  have single : Text.joinStrings "/" [name] = name := by
    simp [Text.joinStrings, Text.join]
  unfold resolve resolveAs
  by_cases sameScheme : base.scheme = layout.scheme
  · rw [if_neg (not_not_intro sameScheme), if_pos sameScheme]
    cases layout with
    | hierarchical =>
        simp only [Bool.false_and, Bool.false_eq_true, if_false, single]
        rfl
    | flat =>
        simp only [Bool.false_and, Bool.false_eq_true, if_false, single]
        unfold joined
        by_cases qualified : delimiter ∈ name.toList
        · rw [if_pos qualified, if_pos ⟨rfl, qualified⟩]
        · rw [if_neg qualified, if_neg (fun both => qualified both.2)]
  · rw [if_pos sameScheme, if_neg sameScheme]

theorem resolve_eq_ok {layout : Namespace} {base file : LogicalPath} {name : String}
    (resolved : layout.resolve base [name] = .ok file) : file = layout.joined base name := by
  rw [resolve_single] at resolved
  split at resolved
  · exact (Except.ok.inj resolved).symm
  · cases resolved

theorem resolve_root (layout : Namespace) (name : String) :
    layout.resolve layout.root [name] = .ok (layout.joined layout.root name) := by
  rw [resolve_single, if_pos]
  rfl

/-! ## Joining components to a directory -/

theorem closeLast_concat (front : List String) (last : String) :
    closeLast (front ++ [last]) = front ++ [closed last] := by
  induction front with
  | nil => rfl
  | cons first front induction =>
      cases front with
      | nil => rfl
      | cons second front =>
          rw [List.cons_append, List.cons_append, closeLast]
          · rw [← List.cons_append, induction]
            rfl
          · simp

theorem endsWith_joinStrings_closeLast {components : List String} (nonempty : components ≠ []) :
    Text.endsWith delimiter (Text.joinStrings "/" (closeLast components)).toList = true := by
  rcases List.eq_nil_or_concat components with nothing | ⟨front, last, rfl⟩
  · exact absurd nothing nonempty
  · have isClosed := endsWith_closed last
    rw [List.concat_eq_append, closeLast_concat, Text.joinStrings, String.toList_ofList,
      Text.slash_toList, List.map_append, List.map_singleton, Text.join_concat,
      Text.endsWith_append _ (Text.ne_nil_of_endsWith isClosed)]
    exact isClosed

/-- Components are joined to the text of a directory, which is collapsed. -/
theorem resolveDirectory_eq_ok {layout : Namespace} {base path : LogicalPath}
    {components : List String} (nonempty : components ≠ [])
    (located : layout.resolveDirectory base components = .ok path) :
    ∃ host text, Text.endsWith delimiter text.toList = true ∧
      path = .make layout.scheme host (collapse text) := by
  have joinedClosed (front : String) : Text.endsWith delimiter
      (front ++ Text.joinStrings "/" (closeLast components)).toList = true := by
    have isClosed := endsWith_joinStrings_closeLast nonempty
    rw [String.toList_append, Text.endsWith_append _ (Text.ne_nil_of_endsWith isClosed), isClosed]
  have notEmpty : components.isEmpty = false := by simpa using nonempty
  simp only [resolveDirectory, resolveAs, notEmpty, Bool.and_false, Bool.false_eq_true,
    if_false, if_true] at located
  split at located
  · cases located
  split at located
  · split at located
    · cases located
      exact ⟨none, _, joinedClosed _, rfl⟩
    · cases located
      exact ⟨base.host, _, joinedClosed _, rfl⟩
  · cases located
    exact ⟨base.host, _, joinedClosed _, rfl⟩

/-- A plain name is joined onto its base. -/
theorem joined_of_plain {layout : Namespace} {base : LogicalPath} {name : String}
    (plain : delimiter ∉ name.toList) :
    layout.joined base name =
      .make layout.scheme base.host (collapse (base.path ++ "/" ++ name)) := by
  rw [joined, if_neg]
  exact fun qualified => plain qualified.2

/-! ## Keys -/

/-- The text of a key, from the host of its path and the rest of the path. -/
def keyText : (host : Option String) → (path : List Char) → List Char
  | some host, path => host.toList ++ path
  | none, path => path.tail

theorem objectKey_toList (path : LogicalPath) :
    (objectKey path).text.toList = keyText path.host path.path.toList := by
  unfold objectKey
  split
  · next host found => rw [found, String.toList_append, keyText]
  · next found => rw [found, String.toList_ofList, keyText]

theorem keyText_append {host : Option String} {path : List Char}
    (isRooted : path.head? = some delimiter) (more : List Char) :
    keyText host (path ++ more) = keyText host path ++ more := by
  rcases List.head?_eq_some_iff.mp isRooted with ⟨rest, rfl⟩
  cases host <;> simp [keyText]

theorem keyText_inj {host : Option String} {left right : List Char}
    (leftRooted : left.head? = some delimiter) (rightRooted : right.head? = some delimiter) :
    keyText host left = keyText host right ↔ left = right := by
  rcases List.head?_eq_some_iff.mp leftRooted with ⟨leftRest, rfl⟩
  rcases List.head?_eq_some_iff.mp rightRooted with ⟨rightRest, rfl⟩
  cases host <;> simp [keyText]

/-- The key of a directory has the form of a directory, but for the root, whose key is empty. -/
theorem isDirectoryForm_objectKey {path : LogicalPath} (isClosed : path.isDirectory = true) :
    path.isRoot = true ∨ (objectKey path).isDirectoryForm = true := by
  rcases path.path_eq_cons with ⟨rest, isPath⟩
  rw [LogicalPath.isDirectory, isPath] at isClosed
  rw [ObjectKey.isDirectoryForm, objectKey_toList, isPath]
  cases isHost : path.host with
  | some host =>
      right
      rw [keyText, Text.endsWith_append _ (by simp), isClosed]
  | none =>
      cases rest with
      | nil =>
          left
          have slash : path.path = "/" := String.toList_inj.mp isPath
          rw [LogicalPath.isRoot, isHost, slash]
          rfl
      | cons first rest =>
          right
          have something : first :: rest ≠ [] := List.cons_ne_nil first rest
          exact (Text.endsWith_append [delimiter] something).symm.trans isClosed

theorem objectKey_of_fileKey {path : LogicalPath} {key : ObjectKey}
    (found : fileKey path = .ok key) :
    key = objectKey path ∧ key.isRoot = false ∧ key.isDirectoryForm = false := by
  rw [fileKey, ObjectKey.asFile] at found
  split at found
  · cases found
  next notRoot =>
    split at found
    · cases found
    next notDirectory =>
      cases found
      exact ⟨rfl, by simpa using notRoot, by simpa using notDirectory⟩

/-- The key of a file below a directory is that of the collapsed directory with the name behind. -/
theorem toList_of_fileKey {layout : Namespace} {path : LogicalPath} {name : String}
    {key : ObjectKey} (isClosed : path.isDirectory = true)
    (proper : isProper name.toList = true) (plain : delimiter ∉ name.toList)
    (isKey : fileKey (layout.joined path name) = .ok key) :
    key.text.toList = keyText path.host (collapse path.path).toList ++ name.toList := by
  rw [(objectKey_of_fileKey isKey).1, objectKey_toList, joined_of_plain plain, host_make,
    path_make_collapse, collapse_below isClosed proper plain, String.toList_append,
    keyText_append (head?_collapse path.path)]

/-- A text that collapses to a path with the key of a file has a segment, and does not stand for a
directory. -/
theorem open_of_fileKey {scheme : Scheme} {host : Option String} {text : String} {key : ObjectKey}
    (isKey : fileKey (.make scheme host (collapse text)) = .ok key) :
    marksDirectory text.toList = false ∧ segments text.toList ≠ [] := by
  rcases objectKey_of_fileKey isKey with ⟨isObject, notRoot, notDirectory⟩
  rcases List.head?_eq_some_iff.mp (head?_collapse text) with ⟨rest, whole⟩
  have isText : key.text.toList = keyText (LogicalPath.make scheme host (collapse text)).host
      (delimiter :: rest) := by
    rw [isObject, objectKey_toList, path_make_collapse, whole]
  rw [ObjectKey.isDirectoryForm, isText] at notDirectory
  have something : rest ≠ [] := by
    rintro rfl
    cases isHost : (LogicalPath.make scheme host (collapse text)).host with
    | some kept => simp [isHost, keyText] at notDirectory
    | none =>
        rw [isHost, keyText, List.tail_cons, String.toList_eq_nil_iff] at isText
        rw [ObjectKey.isRoot, isText] at notRoot
        cases notRoot
  have notClosed : Text.endsWith delimiter rest = false := by
    rw [← notDirectory]
    cases (LogicalPath.make scheme host (collapse text)).host with
    | some kept =>
        rw [keyText, ← List.singleton_append, ← List.append_assoc, Text.endsWith_append _ something]
    | none => rfl
  exact open_of_collapse whole something notClosed

/-- In the hierarchical namespace, the key of a file has the segments of its name behind the
collapsed directory, whatever the name is. -/
theorem toList_of_fileKey_below {path : LogicalPath} {name : String} {key : ObjectKey}
    (isKey : fileKey (hierarchical.joined path name) = .ok key) :
    segments name.toList ≠ [] ∧ key.text.toList =
      keyText path.host (collapse (path.path ++ "/")).toList ++
        Text.join [delimiter] (segments name.toList) := by
  have below : hierarchical.joined path name =
      .make hierarchical.scheme path.host (collapse (path.path ++ "/" ++ name)) :=
    if_neg (by simp)
  rw [below] at isKey
  rcases collapse_beneath (open_of_fileKey isKey).1 with ⟨hasSegments, whole⟩
  refine ⟨hasSegments, ?_⟩
  rw [(objectKey_of_fileKey isKey).1, objectKey_toList, host_make, path_make_collapse, whole,
    keyText_append (head?_collapse _)]

end Namespace

end Depot
