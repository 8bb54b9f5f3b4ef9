import Depot.Proofs.Uris

/-!
What locations stand for. Behind a namespace's own scheme, what stands between two delimiters and the
next one is the host, and the rest is the text of a path; any other location is the text of a path as
it is. Either way the path is one of a directory. Its written form carries the scheme and ends in a
delimiter already, so it stands for the same path.
-/

namespace Depot

namespace Scheme

/-! ## Schemes in front of texts -/

/-- A name is found in any spelling that becomes the name in small letters. -/
theorem afterName?_eq_some_iff {name text rest : List Char} :
    afterName? name text = some rest ↔
      ∃ spelling, spelling.map Char.toLower = name ∧ text = spelling ++ ':' :: rest := by
  constructor
  · intro found
    fun_induction afterName? name text with
    | case1 rest =>
        cases found
        exact ⟨[], rfl, rfl⟩
    | case2 text notColon => cases found
    | case3 expected name => cases found
    | case4 name first text induction =>
        rcases induction found with ⟨spelling, rfl, rfl⟩
        exact ⟨first :: spelling, rfl, rfl⟩
    | case5 expected name first text different => cases found
  · intro given
    rcases given with ⟨spelling, rfl, rfl⟩
    induction spelling with
    | nil => rfl
    | cons first spelling induction =>
        rw [List.map_cons, List.cons_append, afterName?, if_pos rfl, induction]

theorem cutAt?_of_afterName? {name text rest : List Char} (plain : ':' ∉ name)
    (found : afterName? name text = some rest) :
    ∃ spelling, spelling.map Char.toLower = name ∧
      Text.cutAt? ':' text = some (spelling, rest) := by
  rcases afterName?_eq_some_iff.mp found with ⟨spelling, rfl, rfl⟩
  refine ⟨spelling, rfl, Text.cutAt?_append ?_ rest⟩
  intro member
  exact plain (List.mem_map_of_mem (f := Char.toLower) member)

theorem plain_name (scheme : Scheme) : ':' ∉ scheme.name.toList := by
  cases scheme <;> decide

/-- No text carries two schemes. -/
theorem eq_of_afterName? {left right : Scheme} {text early late : List Char}
    (isLeft : afterName? left.name.toList text = some early)
    (isRight : afterName? right.name.toList text = some late) : left = right := by
  rcases cutAt?_of_afterName? (plain_name left) isLeft with ⟨spelling, isName, cut⟩
  rcases cutAt?_of_afterName? (plain_name right) isRight with ⟨other, isOther, sameCut⟩
  rw [cut, Option.some.injEq, Prod.mk.injEq] at sameCut
  rw [← sameCut.1, isName] at isOther
  cases left <;> cases right <;> first | rfl | exact absurd isOther (by decide)

theorem split?_eq_some_iff_afterName? {scheme : Scheme} {raw rest : String} :
    split? raw = some (scheme, rest) ↔
      afterName? scheme.name.toList raw.toList = some rest.toList := by
  constructor
  · intro found
    unfold split? at found
    split at found
    · next behind isBehind =>
      cases found
      rw [String.toList_ofList, isBehind]
    · rcases Option.map_eq_some_iff.mp found with ⟨behind, isBehind, same⟩
      cases same
      rw [String.toList_ofList, isBehind]
  · intro found
    unfold split?
    split
    · next behind isBehind =>
      cases eq_of_afterName? isBehind found
      rw [found, Option.some.injEq] at isBehind
      rw [← isBehind, String.ofList_toList]
    · next absent =>
      cases scheme with
      | s3 =>
          rw [found] at absent
          cases absent
      | swarm => rw [found, Option.map_some, String.ofList_toList]

/-- A text carries a scheme if it begins with the scheme's name, in letters of any case, and a
colon. -/
theorem split?_eq_some_iff {scheme : Scheme} {raw rest : String} :
    split? raw = some (scheme, rest) ↔
      ∃ spelling, Text.lower spelling = scheme.name ∧ raw = spelling ++ ":" ++ rest := by
  have isName (spelling : List Char) :
      Text.lower (String.ofList spelling) = scheme.name ↔
        spelling.map Char.toLower = scheme.name.toList := by
    rw [Text.lower, String.toList_ofList, ← String.toList_inj, String.toList_ofList]
  rw [split?_eq_some_iff_afterName?, afterName?_eq_some_iff]
  constructor
  · intro given
    rcases given with ⟨spelling, spelled, whole⟩
    refine ⟨String.ofList spelling, (isName spelling).mpr spelled, ?_⟩
    rw [← String.toList_inj, whole]
    simp
  · intro given
    rcases given with ⟨spelling, spelled, rfl⟩
    refine ⟨spelling.toList, ?_, by simp⟩
    rwa [← isName, String.ofList_toList]

theorem split?_of_spelled {scheme : Scheme} {spelling : String}
    (spelled : Text.lower spelling = scheme.name) (rest : String) :
    split? (spelling ++ ":" ++ rest) = some (scheme, rest) :=
  split?_eq_some_iff.mpr ⟨spelling, spelled, rfl⟩

end Scheme

namespace LogicalPath

/-! ## Reading behind a scheme -/

variable {scheme : Scheme} {spelling host text : String}

theorem rooted_of_starts (starts : text.toList.head? = some delimiter) : rooted text = text :=
  if_pos starts

/-- A text without two delimiters behind its scheme is read as the text of a path. -/
theorem parse_of_bare (spelled : Text.lower spelling = scheme.name)
    (bare : Text.startsWith ['/', '/'] text.toList = false) :
    parse (spelling ++ ":" ++ text) = .ok (make scheme none text) := by
  have absent : Text.dropLead? ['/', '/'] text.toList = none := by
    simpa [Text.startsWith] using bare
  rw [parse, Scheme.split?_of_spelled spelled]
  simp only [absent]

/-- Behind two delimiters a host is read, up to the next delimiter. -/
theorem parse_of_host (spelled : Text.lower spelling = scheme.name)
    (plain : delimiter ∉ host.toList) (starts : text = "" ∨ text.toList.head? = some delimiter) :
    parse (spelling ++ ":" ++ ("//" ++ host ++ text)) = .ok (make scheme (some host) text) := by
  have opens : Text.dropLead? ['/', '/'] ("//" ++ host ++ text).toList =
      some (host.toList ++ text.toList) := by
    rw [Text.dropLead?_eq_some_iff]
    simp
  rw [parse, Scheme.split?_of_spelled spelled]
  simp only [opens]
  rcases starts with rfl | starts
  · have absent : Text.cutAt? delimiter (host.toList ++ "".toList) = none := by
      simpa [Text.cutAt?_eq_none_iff] using plain
    simp only [absent]
    rw [String.toList_empty, List.append_nil, String.ofList_toList]
    rfl
  · rcases List.head?_eq_some_iff.mp starts with ⟨behind, whole⟩
    have cut : Text.cutAt? delimiter (host.toList ++ text.toList) = some (host.toList, behind) := by
      rw [whole, Text.cutAt?_append plain]
    simp only [cut]
    rw [← whole, String.ofList_toList, String.ofList_toList]

end LogicalPath

namespace Namespace

/-! ## Closing a text -/

theorem closed_of_endsWith {text : String} (isClosed : Text.endsWith delimiter text.toList = true) :
    closed text = text := if_pos isClosed

/-- A text is closed at its end, unless there is nothing of it and what stands before it is closed. -/
theorem closed_append {front text : String}
    (opens : text ≠ "" ∨ Text.endsWith delimiter front.toList = false) :
    closed (front ++ text) = front ++ closed text := by
  have sameEnd : Text.endsWith delimiter (front ++ text).toList =
      Text.endsWith delimiter text.toList := by
    rw [String.toList_append]
    by_cases nothing : text = ""
    · subst nothing
      rw [String.toList_empty, List.append_nil, opens.resolve_left (not_not_intro rfl)]
      rfl
    · exact Text.endsWith_append _ (by simpa using nothing)
  unfold closed
  rw [sameEnd]
  split
  · rfl
  · rw [String.append_assoc]

theorem head?_closed {text : String} (something : text ≠ "") :
    (closed text).toList.head? = text.toList.head? := by
  have filled : text.toList ≠ [] := by simpa using something
  unfold closed
  split
  · rfl
  · rw [String.toList_append, List.head?_append_of_ne_nil _ filled]

/-- A text that is nothing or starts with the delimiter does so when it is closed. -/
theorem starts_closed {text : String} (starts : text = "" ∨ text.toList.head? = some delimiter) :
    (closed text).toList.head? = some delimiter := by
  rcases starts with rfl | starts
  · rfl
  · rw [head?_closed, starts]
    rintro rfl
    cases starts

/-- Closing a text never puts a second delimiter at its beginning. -/
theorem bare_closed {text : String} (bare : Text.startsWith ['/', '/'] text.toList = false) :
    Text.startsWith ['/', '/'] (closed text).toList = false := by
  unfold closed
  split
  · exact bare
  next opens =>
    rw [Bool.eq_false_iff, ne_eq, Text.startsWith_iff] at bare ⊢
    rw [String.toList_append, Text.slash_toList]
    rintro ⟨rest, whole⟩
    match chars : text.toList with
    | [] => simp [chars] at whole
    | [single] =>
        rw [chars, List.cons_append, List.cons_append, List.cons.injEq] at whole
        rw [chars, whole.1] at opens
        exact opens (by decide)
    | first :: second :: others =>
        rw [chars, List.cons_append, List.cons_append, List.cons_append, List.cons_append,
          List.cons.injEq, List.cons.injEq] at whole
        exact bare ⟨others, by rw [chars, whole.1, whole.2.1]; rfl⟩

/-- It does not matter whether a text is closed before or after it is rooted. -/
theorem rooted_closed_rooted (text : String) :
    LogicalPath.rooted (closed (LogicalPath.rooted text)) = LogicalPath.rooted (closed text) := by
  by_cases starts : text.toList.head? = some delimiter
  · rw [LogicalPath.rooted_of_starts starts]
  · have leads (text : String) : ("/" ++ text).toList.head? = some delimiter := by
      rw [String.toList_append]
      rfl
    have isRooted : LogicalPath.rooted text = "/" ++ text := if_neg starts
    by_cases nothing : text = ""
    · subst nothing
      rfl
    · rw [isRooted, closed_append (.inl nothing), LogicalPath.rooted_of_starts (leads _),
        LogicalPath.rooted, if_neg (head?_closed nothing ▸ starts)]

/-! ## What a location says -/

variable {layout : Namespace} {location : String} {host : Option String} {text : String}

/-- How a location is read in a namespace: the host that it names, which may be empty, and the text of
its path. Only behind the namespace's own scheme is there a host, and it ends at a delimiter or with
the location. -/
inductive Reading (layout : Namespace) :
    (location : String) → (host : Option String) → (text : String) → Prop
  | located {spelling host text : String} (spelled : Text.lower spelling = layout.scheme.name)
      (plain : delimiter ∉ host.toList) (starts : text = "" ∨ text.toList.head? = some delimiter) :
      Reading layout (spelling ++ ":" ++ ("//" ++ host ++ text)) (some host) text
  | bare {spelling text : String} (spelled : Text.lower spelling = layout.scheme.name)
      (noHost : Text.startsWith ['/', '/'] text.toList = false) :
      Reading layout (spelling ++ ":" ++ text) none text
  | foreign {text : String} (other : ∀ spelling rest, Text.lower spelling = layout.scheme.name →
      text ≠ spelling ++ ":" ++ rest) : Reading layout text none text

theorem owns_iff :
    layout.owns location = true ↔
      ∃ spelling rest, Text.lower spelling = layout.scheme.name ∧
        location = spelling ++ ":" ++ rest := by
  have spelled : (∃ spelling rest, Text.lower spelling = layout.scheme.name ∧
      location = spelling ++ ":" ++ rest) ↔
        ∃ rest, Scheme.split? location = some (layout.scheme, rest) := by
    simp only [Scheme.split?_eq_some_iff]
    exact exists_comm
  rw [spelled, owns]
  cases Scheme.split? location with
  | none => simp
  | some found => simp [Prod.ext_iff]

/-- Every location can be read. -/
theorem exists_reading (layout : Namespace) (location : String) :
    ∃ host text, layout.Reading location host text := by
  by_cases own : layout.owns location = true
  · rcases owns_iff.mp own with ⟨spelling, rest, spelled, rfl⟩
    cases opens : Text.dropLead? ['/', '/'] rest.toList with
    | none => exact ⟨none, rest, .bare spelled (by simp [Text.startsWith, opens])⟩
    | some behind =>
        have whole := Text.dropLead?_eq_some_iff.mp opens
        cases cut : Text.cutAt? delimiter behind with
        | none =>
            have plain := Text.cutAt?_eq_none_iff.mp cut
            have isRest : rest = "//" ++ String.ofList behind ++ "" := by
              rw [← String.toList_inj, whole]
              simp
            rw [isRest]
            exact ⟨_, _, .located spelled (by rwa [String.toList_ofList]) (.inl rfl)⟩
        | some found =>
            rcases Text.cutAt?_eq_some cut with ⟨parts, plain⟩
            have isRest : rest =
                "//" ++ String.ofList found.1 ++ String.ofList (delimiter :: found.2) := by
              rw [← String.toList_inj, whole, parts]
              simp
            rw [isRest]
            exact ⟨_, _, .located spelled (by rwa [String.toList_ofList])
              (.inr (by rw [String.toList_ofList, List.head?_cons]))⟩
  · refine ⟨none, location, .foreign ?_⟩
    intro spelling rest spelled whole
    exact own (owns_iff.mpr ⟨spelling, rest, spelled, whole⟩)

theorem normalize_of_owns (something : location ≠ "") (own : layout.owns location = true) :
    layout.normalize location = LogicalPath.parse (closed location) := by
  rw [normalize, if_neg something, if_pos own]

/-- A location stands for the path whose host and text are read from it. -/
theorem normalize_of_reading (something : location ≠ "")
    (reading : layout.Reading location host text) :
    layout.normalize location = .ok (.make layout.scheme host (closed text)) := by
  cases reading with
  | @located spelling host text spelled plain starts =>
      rw [normalize_of_owns something (owns_iff.mpr ⟨_, _, spelled, rfl⟩)]
      by_cases nothing : host = "" ∧ text = ""
      · -- With nothing behind the two delimiters, these are what closes the location.
        rcases nothing with ⟨rfl, rfl⟩
        have isClosed :
            Text.endsWith delimiter (spelling ++ ":" ++ ("//" ++ "" ++ "")).toList = true := by
          rw [String.toList_append, Text.endsWith_append _ (by decide)]
          decide
        rw [closed_of_endsWith isClosed, LogicalPath.parse_of_host spelled plain starts]
        rfl
      · have opens : text ≠ "" ∨ Text.endsWith delimiter ("//" ++ host).toList = false := by
          refine or_iff_not_imp_left.mpr fun noText => ?_
          have filled : host.toList ≠ [] := by
            simpa using fun noHost => nothing ⟨noHost, not_not.mp noText⟩
          rw [String.toList_append, Text.endsWith_append _ filled, Text.endsWith_of_not_mem plain]
        rw [closed_append (.inl (by simp [String.append_eq_empty_iff])), closed_append opens,
          LogicalPath.parse_of_host spelled plain (.inr (starts_closed starts))]
  | @bare spelling text spelled noHost =>
      have isOpen : Text.endsWith delimiter (spelling ++ ":").toList = false := by
        rw [String.toList_append, Text.endsWith_append _ (by decide)]
        decide
      rw [normalize_of_owns something (owns_iff.mpr ⟨_, _, spelled, rfl⟩),
        closed_append (.inr isOpen), LogicalPath.parse_of_bare spelled (bare_closed noHost)]
  | foreign other =>
      have foreign : ¬layout.owns location = true := by
        intro own
        rcases owns_iff.mp own with ⟨spelling, rest, spelled, whole⟩
        exact other spelling rest spelled whole
      rw [normalize, if_neg something, if_neg foreign]
      apply congrArg Except.ok
      exact LogicalPath.ext rfl rfl (rooted_closed_rooted location)

/-- The written form of a directory's path stands for that path. -/
theorem normalize_uri {path : LogicalPath} (sameScheme : path.scheme = layout.scheme)
    (isDirectory : path.isDirectory = true) (plain : path.HasPlainHost) :
    layout.normalize path.uri = .ok path := by
  have spelled : Text.lower path.scheme.name = layout.scheme.name := by
    rw [← sameScheme]
    cases path.scheme <;> decide
  have parts : path.uri =
      path.scheme.name ++ ":" ++ ("//" ++ path.host.getD "" ++ path.path) := by
    rw [← String.toList_inj, LogicalPath.uri]
    simp
  have something : path.uri ≠ "" := by
    rw [parts]
    simp [String.append_eq_empty_iff]
  have isClosed : Text.endsWith delimiter path.uri.toList = true := by
    rw [LogicalPath.uri, String.toList_append,
      Text.endsWith_append _ (Text.ne_nil_of_endsWith isDirectory)]
    exact isDirectory
  rw [normalize_of_owns something (owns_iff.mpr ⟨_, _, spelled, parts⟩),
    closed_of_endsWith isClosed, LogicalPath.parse_uri_of_plain plain]

/-- A location stands for no path exactly if it is empty. Otherwise it stands for the directory whose
host and text are read from it, in the namespace's scheme; there is a host exactly if the location
carries that scheme, two delimiters, and something before the next delimiter. The written form of the
path stands for the same path. -/
theorem normalize_canonical (layout : Namespace) (location : String) :
    location = "" ∧ (∃ reason, layout.normalize location = .error (.invalidPath reason)) ∨
    location ≠ "" ∧ ∃ path, layout.normalize location = .ok path ∧
      (∃ host text, layout.Reading location host text ∧
        path = .make layout.scheme host (closed text)) ∧
      path.scheme = layout.scheme ∧ path.path.toList.head? = some delimiter ∧
      path.path.toList.getLast? = some delimiter ∧
      (∀ host, path.host = some host ↔
        host ≠ "" ∧ ∃ text, layout.Reading location (some host) text) ∧
      layout.normalize path.uri = .ok path := by
  by_cases nothing : location = ""
  · exact .inl ⟨nothing, _, if_pos nothing⟩
  refine .inr ⟨nothing, ?_⟩
  rcases exists_reading layout location with ⟨host, text, reading⟩
  have normalized := normalize_of_reading nothing reading
  rcases normalize_eq_ok normalized with ⟨isDirectory, plain⟩
  refine ⟨_, normalized, ⟨host, text, reading, rfl⟩, rfl, LogicalPath.path_starts _,
    beq_iff_eq.mp isDirectory, ?hosts, normalize_uri rfl isDirectory plain⟩
  case hosts =>
    intro name
    constructor
    · intro isHost
      cases LogicalPath.host_of_make isHost
      refine ⟨?_, text, reading⟩
      rintro rfl
      exact LogicalPath.host_ne_empty _ isHost
    · intro given
      rcases given with ⟨filled, other, otherReading⟩
      rw [normalize_of_reading nothing otherReading, Except.ok.injEq] at normalized
      rw [← normalized]
      simp [LogicalPath.make, Option.filter, filled]

example : (hierarchical.normalize "S3://house//attic").toOption.map LogicalPath.uri =
    some "s3://house//attic/" := by decide

end Namespace

end Depot
