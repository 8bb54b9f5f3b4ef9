import Depot.Proofs.Enclosure
import Depot.Proofs.Existence
import Depot.Proofs.Visibility

/-!
What is a directory, and what is listed as one. A listing takes the keys below a name as a sign that
the name is a directory; the type of a path asks for a marker. Backups and directories that are made
leave markers around all they put, so the two agree there, but for names that are put behind an empty
segment. A file that is written on its own has no markers around it, and what is listed as a
directory for its sake has the type of a file.
-/

namespace Depot.Memory.Store

variable {layout : Namespace} {store : Store} {key : ObjectKey}

/-- In a store in order, what is a directory is a marker. -/
theorem Orderly.any_isDirectory_iff (orderly : store.Orderly layout) :
    (store.find? key).any (·.isDirectory) = true ↔ store.find? key = some .marker := by
  constructor
  · intro isMarked
    rcases Option.any_eq_true _ _ |>.mp isMarked with ⟨object, stored, kind⟩
    rw [stored, (orderly.markers stored kind).2.1]
  · intro marked
    rw [marked]
    rfl

/-- Below markers, a directory has a marker exactly if something is stored that starts with it and
does not go on with another delimiter. -/
theorem Enclosed.marker_iff (enclosed : store.Enclosed) (isDirectory : key.isDirectoryForm = true)
    (notSlash : key.text ≠ "/") :
    store.find? key = some .marker ↔ ∃ other ∈ store.keys, ∃ rest,
      other.toList = key.text.toList ++ rest ∧ rest.head? ≠ some delimiter := by
  constructor
  · intro marked
    exact ⟨key.text, mem_keys_iff.mpr ⟨_, marked⟩, [], by simp, by simp⟩
  · intro given
    rcases given with ⟨other, among, rest, whole, goesOn⟩
    rcases mem_keys_iff.mp among with ⟨object, stored⟩
    by_cases nothing : rest = []
    · have same : (⟨other⟩ : ObjectKey) = key := by
        rw [nothing, List.append_nil, String.toList_inj] at whole
        rw [whole]
      rw [same] at stored
      rw [stored, enclosed.orderly.eq_marker stored isDirectory]
    · exact enclosed.marker_of_mem_ancestors stored
        (ObjectKey.mem_ancestors_of_append isDirectory nothing goesOn whole) notSlash

/-- Below markers and without empty segments, a directory has a marker exactly if something starts
with it. -/
theorem Enclosed.marker_iff_hasLead (enclosed : store.Enclosed)
    (isDirectory : key.isDirectoryForm = true) (notSlash : key.text ≠ "/")
    (noEmptySegment : ¬store.HasLead (key.text ++ "/")) :
    store.find? key = some .marker ↔ store.HasLead key.text := by
  constructor
  · intro marked
    rw [hasLead_iff, marked]
    exact .inr rfl
  · intro given
    rcases given with ⟨other, stored, starts⟩
    rcases Text.startsWith_iff.mp starts with ⟨rest, whole⟩
    refine (enclosed.marker_iff isDirectory notSlash).mpr ⟨other, stored, rest, whole, ?_⟩
    intro goesOn
    rcases List.head?_eq_some_iff.mp goesOn with ⟨more, rfl⟩
    apply noEmptySegment
    exact ⟨other, stored, Text.startsWith_iff.mpr ⟨more, by simp [whole, delimiter]⟩⟩

end Depot.Memory.Store

namespace Depot.Directory

open Memory

variable {before : Watched} {key : ObjectKey}

/-- What is listed is a plain name, or one with a delimiter behind it. -/
theorem exists_name_of_listed {store : Store} {lead child : String}
    (among : child ∈ sortedDistinct (store.keys.filterMap (child? lead))) :
    ∃ name, delimiter ∉ name.toList ∧ (child = name ∨ child = name ++ "/") := by
  rw [mem_sortedDistinct] at among
  rcases List.mem_filterMap.mp among with ⟨key, -, found⟩
  exact exists_name_of_child? found

theorem yields_isDirectory (before : Watched) (key : ObjectKey) :
    Yields (Client.isDirectory key) before
      (.ok ((before.store.find? key).any (·.isDirectory))) before := by
  have found : Yields (Client.head? key) before _ before := Yields.head? key
  refine found.reading ?_
  cases before.store.find? key <;> exact Yields.ofPure _

theorem yields_classify_root (isRoot : key.isRoot = true) :
    Yields (classify .hierarchical key) before (.ok .directory) before := by
  rw [classify, isRoot]
  exact Yields.ofPure _

/-- In a store in order a key stands for a directory exactly if there is a marker at its directory
form. -/
theorem yields_classify (orderly : before.store.Orderly .hierarchical)
    (notRoot : key.isRoot = false) :
    ∃ kind, Yields (classify .hierarchical key) before (.ok kind) before ∧
      (kind = .directory ↔ before.store.find? key.asDirectory = some .marker) := by
  have asked : Yields (Client.isDirectory key) before _ before := yields_isDirectory before key
  rw [classify, notRoot]
  cases isMarked : (before.store.find? key).any (·.isDirectory) with
  | true =>
      rw [isMarked] at asked
      refine ⟨.directory, asked.reading (Yields.ofPure _), iff_of_true rfl ?_⟩
      have marked := orderly.any_isDirectory_iff.mp isMarked
      rwa [ObjectKey.asDirectory_of_isDirectoryForm notRoot (orderly.markers marked rfl).2.2.1]
  | false =>
      rw [isMarked] at asked
      cases isDirectory : key.isDirectoryForm with
      | true =>
          refine ⟨.file, asked.reading (Yields.ofPure _), iff_of_false (by simp) ?_⟩
          rw [ObjectKey.asDirectory_of_isDirectoryForm notRoot isDirectory,
            ← orderly.any_isDirectory_iff, isMarked]
          simp
      | false =>
          have again : Yields (Client.isDirectory key.asDirectory) before _ before :=
            yields_isDirectory before key.asDirectory
          refine ⟨_, asked.reading (again.reading (Yields.ofPure _)), ?_⟩
          rw [← orderly.any_isDirectory_iff]
          cases (before.store.find? key.asDirectory).any (·.isDirectory) <;> simp

end Depot.Directory

namespace Depot.ObjectKey

/-- The directory form of a name behind a front has a delimiter behind the name. -/
theorem asDirectory_of_child {front name child : String} (nonempty : name ≠ "")
    (plain : delimiter ∉ name.toList) (isChild : child = name ∨ child = name ++ "/") :
    (⟨front ++ child⟩ : ObjectKey).isRoot = false ∧
      (⟨front ++ child⟩ : ObjectKey).asDirectory = ⟨front ++ name ++ "/"⟩ := by
  have something : name.toList ≠ [] := by rwa [ne_eq, String.toList_eq_nil_iff]
  have notRoot : (⟨front ++ child⟩ : ObjectKey).isRoot = false := by
    rcases List.exists_mem_of_ne_nil _ something with ⟨character, inName⟩
    have inKey : character ∈ (⟨front ++ child⟩ : ObjectKey).text.toList := by
      rcases isChild with rfl | rfl <;> simp [inName]
    rw [Bool.eq_false_iff, ne_eq, isRoot_iff]
    intro given
    rcases given with text | text
    · rw [text] at inKey
      cases inKey
    · rw [text] at inKey
      have isDelimiter : character = delimiter := by simpa [delimiter] using inKey
      exact plain (isDelimiter ▸ inName)
  refine ⟨notRoot, ?_⟩
  rcases isChild with rfl | rfl
  · have isFile : (⟨front ++ child⟩ : ObjectKey).isDirectoryForm = false := by
      rw [isDirectoryForm, String.toList_append, Text.endsWith_append _ something]
      exact Text.endsWith_of_not_mem plain
    simp [asDirectory, notRoot, isFile]
  · rw [← String.append_assoc] at notRoot ⊢
    exact asDirectory_of_isDirectoryForm notRoot (Text.endsWith_slash _)

/-- The directory key of a name is that of a directory, and not a single delimiter. -/
theorem directory_of_child {front name : String} (nonempty : name ≠ "")
    (plain : delimiter ∉ name.toList) :
    (⟨front ++ name ++ "/"⟩ : ObjectKey).isDirectoryForm = true ∧ front ++ name ++ "/" ≠ "/" := by
  rcases @asDirectory_of_child front _ _ nonempty plain (.inl rfl) with ⟨notRoot, isDirectory⟩
  have stillNotRoot : (⟨front ++ name⟩ : ObjectKey).asDirectory.isRoot = false := by
    rw [isRoot_asDirectory, notRoot]
  have inForm := isDirectoryForm_asDirectory stillNotRoot
  rw [isDirectory] at stillNotRoot inForm
  refine ⟨inForm, ?_⟩
  intro isSlash
  rw [isRoot_iff.mpr (.inr isSlash)] at stillNotRoot
  cases stillNotRoot

end Depot.ObjectKey

namespace Depot.Namespace

variable {path : LogicalPath} {name child : String}

theorem ne_empty_of_isProper (proper : isProper name.toList = true) : name ≠ "" := by
  rintro rfl
  cases proper

/-- Components lead to a tidy directory. -/
theorem tidy_of_resolveDirectory {layout : Namespace} {base : LogicalPath}
    {components : List String} (nonempty : components ≠ [])
    (located : layout.resolveDirectory base components = .ok path) :
    path.scheme = layout.scheme ∧ path.isDirectory = true ∧ IsTidy path := by
  rcases resolveDirectory_eq_ok nonempty located with ⟨host, text, isClosed, rfl⟩
  refine ⟨rfl, ?_, ?_⟩
  · rw [LogicalPath.isDirectory, path_make_collapse]
    exact endsWith_collapse isClosed
  · rw [IsTidy, path_make_collapse]
    exact collapse_collapse isClosed

/-- The only tidy path with the key of a root is the root. -/
theorem isRoot_objectKey (tidy : IsTidy path) : (objectKey path).isRoot = path.isRoot := by
  have isKey := objectKey_toList path
  rw [Bool.eq_iff_iff, ObjectKey.isRoot_iff, LogicalPath.isRoot, Bool.and_eq_true, beq_iff_eq,
    Option.isNone_iff_eq_none]
  rcases path.path_eq_cons with ⟨rest, isPath⟩
  cases isHost : path.host with
  | some host =>
      have something : host.toList ≠ [] := by
        intro nothing
        apply path.host_ne_empty
        rw [isHost, String.toList_eq_nil_iff.mp nothing]
      rcases List.exists_cons_of_ne_nil something with ⟨first, others, isFirst⟩
      rw [isHost, isPath, keyText, isFirst] at isKey
      apply iff_of_false _ (by simp)
      intro given
      rcases given with text | text
      · simp [text] at isKey
      · have size := congrArg List.length isKey
        simp [text] at size
  | none =>
      rw [isHost, isPath, keyText, List.tail_cons] at isKey
      rw [← String.toList_inj, ← String.toList_inj, isKey, ← String.toList_inj, isPath]
      have notTwo : rest ≠ [delimiter] := by
        rintro rfl
        have isTwo : path.path = "//" := String.toList_inj.mp isPath
        rw [IsTidy, isTwo] at tidy
        exact absurd tidy (by decide +kernel)
      have nothing : "".toList = [] := rfl
      rw [Text.slash_toList, nothing, or_iff_left notTwo]
      simp

/-- The key of a child comes behind that of its directory. -/
theorem objectKey_joined (isClosed : path.isDirectory = true) (tidy : IsTidy path)
    (proper : isProper name.toList = true) (plain : delimiter ∉ name.toList)
    (isChild : child = name ∨ child = name ++ "/") :
    (objectKey (hierarchical.joined path child)).text = (objectKey path).text ++ child := by
  have below : collapse (path.path ++ "/" ++ child) = path.path ++ child := by
    rcases isChild with rfl | rfl
    · rw [collapse_below isClosed proper plain, tidy]
    · rw [collapse_below_closed isClosed proper plain, tidy]
  have notFlat : ¬(hierarchical = .flat ∧ delimiter ∈ child.toList) := by simp
  rw [joined, if_neg notFlat, ← String.toList_inj, objectKey_toList, host_make, path_make_collapse,
    below, String.toList_append, keyText_append path.path_starts, String.toList_append,
    objectKey_toList]

/-- A name that does not count leads back to a tidy directory. -/
theorem joined_improper (sameScheme : path.scheme = hierarchical.scheme)
    (isClosed : path.isDirectory = true) (tidy : IsTidy path)
    (improper : isProper name.toList = false) (isChild : child = name ∨ child = name ++ "/") :
    hierarchical.joined path child = path := by
  have notFlat : ¬(hierarchical = .flat ∧ delimiter ∈ child.toList) := by simp
  rw [joined, if_neg notFlat, collapse_below_improper isClosed improper isChild, tidy, ← sameScheme,
    make_self]

end Depot.Namespace

namespace Depot.Repository

open Memory Dialogue

variable {Handle : Type} {repository : Repository Handle} {path : LogicalPath}
  {before after : Watched}

/-- A directory that is listed without an error is listed whole. -/
theorem run_listAll_ok {names : List String}
    (listed : Run Answered (repository.listAll path).run before (.ok names) after) :
    repository.client.isSome = true ∧ names = sortedDistinct (before.store.keys.filterMap
      (Directory.child? (Namespace.objectKey path).trimDirectory.asDirectory.text)) := by
  rcases Run.bindExcept_iff.mp listed with ⟨error, -, failed, -⟩ | ⟨_, isReady, rest⟩
  · cases failed
  refine ⟨isSome_of_requireClient isReady, ?_⟩
  rcases Directory.yields_children before repository.pageLimit (Namespace.objectKey path) with
    ⟨value, yields, -, whole⟩
  rcases yields _ _ rest with ⟨rfl, -⟩ | ⟨error, failed, -⟩
  · exact whole names rfl
  · cases failed

theorem yields_pathType {kind : PathType} (ready : repository.client.isSome = true)
    (hierarchical : repository.layout = .hierarchical)
    (classified : Yields (Directory.classify .hierarchical (Namespace.objectKey path)) before
      (.ok kind) before) :
    Yields (repository.pathType path) before (.ok kind) before := by
  refine (yields_requireClient ready).reading ?_
  rw [hierarchical]
  exact classified

/-- The type of a child that counts is told by the marker at its directory key. -/
theorem yields_pathType_child {name child : String} (ready : repository.client.isSome = true)
    (hierarchical : repository.layout = .hierarchical)
    (orderly : before.store.Orderly .hierarchical) (isClosed : path.isDirectory = true)
    (tidy : Namespace.IsTidy path) (proper : Namespace.isProper name.toList = true)
    (plain : delimiter ∉ name.toList) (isChild : child = name ∨ child = name ++ "/") :
    ∃ kind, Yields (repository.pathType (Namespace.hierarchical.joined path child)) before (.ok kind)
        before ∧
      (kind = .directory ↔
        before.store.find? ⟨(Namespace.objectKey path).text ++ name ++ "/"⟩ = some .marker) := by
  have nonempty := Namespace.ne_empty_of_isProper proper
  have isKey : Namespace.objectKey (Namespace.hierarchical.joined path child) =
      ⟨(Namespace.objectKey path).text ++ child⟩ :=
    Store.text_eq_iff.mp (Namespace.objectKey_joined isClosed tidy proper plain isChild)
  rcases @ObjectKey.asDirectory_of_child (Namespace.objectKey path).text _ _ nonempty plain isChild
    with ⟨notRoot, isDirectory⟩
  rw [← isKey] at notRoot isDirectory
  rcases Directory.yields_classify orderly notRoot with ⟨kind, classified, isKind⟩
  rw [isDirectory] at isKind
  exact ⟨kind, yields_pathType ready hierarchical classified, isKind⟩

/-- The type of a tidy directory itself is told by its marker, unless it is the root. -/
theorem yields_pathType_self (ready : repository.client.isSome = true)
    (hierarchical : repository.layout = .hierarchical)
    (orderly : before.store.Orderly .hierarchical) (isClosed : path.isDirectory = true)
    (tidy : Namespace.IsTidy path) :
    ∃ kind, Yields (repository.pathType path) before (.ok kind) before ∧
      (kind = .directory ↔ path.isRoot = true ∨
        before.store.find? (Namespace.objectKey path) = some .marker) := by
  have sameRoot := Namespace.isRoot_objectKey tidy
  cases isRoot : path.isRoot with
  | true =>
      rw [isRoot] at sameRoot
      have classified := @Directory.yields_classify_root before _ sameRoot
      exact ⟨.directory, yields_pathType ready hierarchical classified, by simp⟩
  | false =>
      rw [isRoot] at sameRoot
      rcases Directory.yields_classify orderly sameRoot with ⟨kind, classified, isKind⟩
      have isDirectory :=
        (Namespace.isDirectoryForm_objectKey isClosed).resolve_left (by simp [isRoot])
      rw [ObjectKey.asDirectory_of_isDirectoryForm sameRoot isDirectory] at isKind
      exact ⟨kind, yields_pathType ready hierarchical classified, by simp [isKind]⟩

/-- After any session that starts with an empty store, whatever calls fail, every child that a
directory lists has a type. If the name of the child is empty or a dot, it is the type of the
directory itself. Otherwise the child is a directory exactly if there is a marker at its directory
key; so it is a file if its name is not listed as a directory. If the session wrote no files but by
backups, the child is a directory exactly if something is stored that starts with its directory key
and does not go on with another delimiter; so the types tell what is listed with a delimiter, unless
there are empty segments or the same name is listed without one as well. -/
theorem pathType_of_listed {base : LogicalPath} {components names : List String}
    {operations : List Operation} {outcomes : List (Except RepoError Unit)} {start store : Store}
    {child : String} (hierarchical : repository.layout = .hierarchical) (empty : start.keys = [])
    (session : Run Tried (repository.performAll operations) start outcomes store)
    (nonempty : components ≠ [])
    (located : repository.layout.resolveDirectory base components = .ok path)
    (listed : Run Answered (repository.listAll path).run (.fresh store) (.ok names) after)
    (among : child ∈ names) :
    ∃ name file kind, delimiter ∉ name.toList ∧ (child = name ∨ child = name ++ "/") ∧
      repository.layout.resolve path [child] = .ok file ∧
      Yields (repository.pathType file) (.fresh store) (.ok kind) (.fresh store) ∧
      (Namespace.isProper name.toList = false → file = path ∧ (kind = .directory ↔
        path.isRoot = true ∨ store.find? (Namespace.objectKey path) = some .marker)) ∧
      (Namespace.isProper name.toList = true →
        let directory : ObjectKey := ⟨(Namespace.objectKey path).text ++ name ++ "/"⟩
        let onlyBackups := ∀ operation ∈ operations, ¬operation.IsOutput
        (kind = .directory ↔ store.find? directory = some .marker) ∧
        (onlyBackups → (kind = .directory ↔ ∃ other ∈ store.keys, ∃ rest,
          other.toList = directory.text.toList ++ rest ∧ rest.head? ≠ some delimiter)) ∧
        (¬Namespace.IsTopOfClosedHost path →
          (name ++ "/" ∉ names → kind = .file) ∧
          (onlyBackups → ¬store.HasLead (directory.text ++ "/") →
            (child = name → name ++ "/" ∉ names) →
            (kind = .directory ↔ child = name ++ "/")))) := by
  rcases run_listAll_ok listed with ⟨ready, areNames⟩
  change names = sortedDistinct (store.keys.filterMap _) at areNames
  rcases Namespace.tidy_of_resolveDirectory nonempty located with ⟨sameScheme, isClosed, tidy⟩
  have orderly := performAll_keepsOrder repository operations session (.of_no_keys empty)
  rw [hierarchical] at orderly sameScheme
  rw [areNames] at among
  rcases Directory.exists_name_of_listed among with ⟨name, plain, isChild⟩
  have resolved : repository.layout.resolve path [child] =
      .ok (Namespace.hierarchical.joined path child) := by
    rw [hierarchical, Namespace.resolve_single, if_pos sameScheme]
  cases proper : Namespace.isProper name.toList with
  | false =>
      have leadsBack := Namespace.joined_improper sameScheme isClosed tidy proper isChild
      have self := @yields_pathType_self _ repository path (.fresh store) ready hierarchical orderly
        isClosed tidy
      rcases self with ⟨kind, yields, isKind⟩
      rw [leadsBack] at resolved
      exact ⟨name, path, kind, plain, isChild, resolved, yields, fun _ => ⟨rfl, isKind⟩,
        by simp [proper]⟩
  | true =>
      have typed := @yields_pathType_child _ repository path (.fresh store) _ _ ready hierarchical
        orderly isClosed tidy proper plain isChild
      rcases typed with ⟨kind, yields, isKind⟩
      refine ⟨name, _, kind, plain, isChild, resolved, yields, by simp [proper], ?_⟩
      intro _ directory onlyBackups
      change kind = .directory ↔ store.find? directory = some .marker at isKind
      rcases @ObjectKey.directory_of_child (Namespace.objectKey path).text name
        (Namespace.ne_empty_of_isProper proper) plain with ⟨isDirectory, notSlash⟩
      have enclosed (noOutput : onlyBackups) : store.Enclosed :=
        performAll_enclosed hierarchical noOutput session (.of_no_keys empty)
      refine ⟨isKind, ?backups, ?listing⟩
      case backups =>
        intro noOutput
        exact isKind.trans ((enclosed noOutput).marker_iff isDirectory notSlash)
      case listing =>
        intro hostOpen
        have listedIff : name ++ "/" ∈ names ↔ store.HasLead directory.text := by
          rw [areNames, Directory.mem_listed_directory_iff plain,
            Namespace.lead_of_tidy isClosed tidy hostOpen]
        constructor
        · intro notListed
          cases kind with
          | file => rfl
          | directory =>
              rw [listedIff, Store.hasLead_iff, isKind.mp rfl] at notListed
              exact absurd (.inr rfl) notListed
        · intro noOutput noEmptySegment notBoth
          rw [isKind, (enclosed noOutput).marker_iff_hasLead isDirectory notSlash noEmptySegment,
            ← listedIff]
          constructor
          · intro isListed
            exact isChild.resolve_left fun isFile => notBoth isFile isListed
          · intro isListed
            rwa [isListed, ← areNames] at among

/-! Sessions on an empty store in which no call fails, and what is then said of a directory and of
one of its children. -/

private def cabinet : Repository Unit := ⟨.hierarchical, 4, 10, .empty, some ()⟩

private def filled (operations : List Operation) : Store :=
  ((cabinet.performAll operations).run (Fault.interpose Store.respond) ([], .empty)).2.2

private theorem run_filled (operations : List Operation) :
    ∃ outcomes, Run Tried (cabinet.performAll operations) .empty outcomes (filled operations) :=
  ⟨_, tried_of_interpose [] (cabinet.performAll operations) .empty⟩

private theorem run_says {Result : Type} (operations : List Operation) (task : StoreTask Result) :
    ∃ last, Run Answered task.run (.fresh (filled operations))
      ((filled operations).run task.run).1 last :=
  ⟨_, run_of_store task.run (.fresh (filled operations))⟩

private def made : List Operation := [.createDirectory (.make .s3 none "/a/c/")]

theorem pathType_of_listed_made :
    ∃ outcomes last file,
      Run Tried (cabinet.performAll made) .empty outcomes (filled made) ∧
      (filled made).keys = ["a/", "a/c/"] ∧
      Run Answered (cabinet.listAll (.make .s3 none "/a/")).run (.fresh (filled made)) (.ok ["c/"])
        last ∧
      Namespace.resolve .hierarchical (.make .s3 none "/a/") ["c/"] = .ok file ∧
      Yields (cabinet.pathType file) (.fresh (filled made)) (.ok .directory)
        (.fresh (filled made)) := by
  rcases run_filled made with ⟨outcomes, session⟩
  rcases run_says made (cabinet.listAll (.make .s3 none "/a/")) with ⟨last, listed⟩
  have stored : (filled made).keys = ["a/", "a/c/"] := by decide +kernel
  have names :
      ((filled made).run (cabinet.listAll (.make .s3 none "/a/")).run).1 = .ok ["c/"] := by
    decide +kernel
  have located : cabinet.layout.resolveDirectory (.make .s3 none "/") ["a"] =
      .ok (.make .s3 none "/a/") := by decide +kernel
  have empty : Store.empty.keys = [] := by decide +kernel
  have notTop : ¬Namespace.IsTopOfClosedHost (.make .s3 none "/a/") :=
    fun atTop => absurd atTop.1 (by decide +kernel)
  rw [names] at listed
  rcases pathType_of_listed rfl empty session (by simp) located listed (List.mem_singleton_self _)
    with ⟨name, file, kind, plain, isChild, resolved, yields, -, told⟩
  have isName : name = "c" := by
    rcases isChild with rfl | isChild
    · exact absurd plain (by decide +kernel)
    · have same : "c" ++ "/" = name ++ "/" := isChild
      rw [← String.toList_inj, String.toList_append, String.toList_append,
        List.append_cancel_right_eq, String.toList_inj] at same
      exact same.symm
  subst isName
  have noOutput : ∀ operation ∈ made, ¬operation.IsOutput := by
    intro operation member
    rw [made, List.mem_singleton] at member
    rw [member]
    exact id
  have noEmptySegment : ¬(filled made).HasLead
      ((Namespace.objectKey (.make .s3 none "/a/")).text ++ "c" ++ "/" ++ "/") := by
    rw [Store.HasLead, stored]
    decide +kernel
  have agree := ((told (by decide +kernel)).2.2 notTop).2 noOutput noEmptySegment (by decide)
  rw [agree.mpr rfl] at yields
  exact ⟨outcomes, last, file, session, stored, listed, resolved, yields⟩

/-- What is said, after some operations on an empty store, of the directory that a component leads
to: its children, and the type of one of them. -/
private def Said (operations : List Operation) (base : LogicalPath) (component : String)
    (names : List String) (child : String) (kind : PathType) : Prop :=
  ∃ outcomes path file listed typed,
    Run Tried (cabinet.performAll operations) .empty outcomes (filled operations) ∧
    Namespace.resolveDirectory .hierarchical base [component] = .ok path ∧
    Run Answered (cabinet.listAll path).run (.fresh (filled operations)) (.ok names) listed ∧
    child ∈ names ∧ Namespace.resolve .hierarchical path [child] = .ok file ∧
    Run Answered (cabinet.pathType file).run (.fresh (filled operations)) (.ok kind) typed

private theorem said {operations : List Operation} {base path file : LogicalPath}
    {component child : String} {names : List String} {kind : PathType}
    (located : Namespace.resolveDirectory .hierarchical base [component] = .ok path)
    (isListed : ((filled operations).run (cabinet.listAll path).run).1 = .ok names)
    (among : child ∈ names) (resolved : Namespace.resolve .hierarchical path [child] = .ok file)
    (isTyped : ((filled operations).run (cabinet.pathType file).run).1 = .ok kind) :
    Said operations base component names child kind := by
  rcases run_filled operations with ⟨outcomes, session⟩
  rcases run_says operations (cabinet.listAll path) with ⟨lists, listed⟩
  rcases run_says operations (cabinet.pathType file) with ⟨types, typed⟩
  rw [isListed] at listed
  rw [isTyped] at typed
  exact ⟨outcomes, path, file, lists, types, session, located, listed, among, resolved, typed⟩

/-- Types and listings differ: for a file that was written on its own, for a name of a file and of a
directory, behind an empty segment, for a file that is named by a dot, and at the top of a host that
ends in a delimiter. -/
theorem pathType_differs_from_listing :
    Said [.output (.make .s3 none "/a/b/f") [.mk #[1]] .finish] (.make .s3 none "/") "a" ["b/"] "b/"
        .file ∧
      Said [.output (.make .s3 none "/a/b") [.mk #[1]] .finish,
          .createDirectory (.make .s3 none "/a/b/")] (.make .s3 none "/") "a" ["b", "b/"] "b"
        .directory ∧
      Said [.createDirectory (.make .s3 none "/a/b//c/")] (.make .s3 none "/") "a" ["b/"] "b/"
        .file ∧
      Said [.createDirectory (.make .s3 none "/a/"),
          .output (.make .s3 none "/a/.") [.mk #[1]] .finish] (.make .s3 none "/") "a" ["."] "."
        .directory ∧
      Said [.output (.make .s3 none "/h/c") [.mk #[1]] .finish,
          .createDirectory (.make .s3 (some "h/") "/c/")] (.make .s3 (some "h/") "/") "."
        ["/", "c"] "c" .directory := by
  refine ⟨?alone, ?both, ?empty, ?dot, ?host⟩
  case alone =>
    exact @said _ _ (.make .s3 none "/a/") (.make .s3 none "/a/b/") _ _ _ _ (by decide +kernel)
      (by decide +kernel) (by decide) (by decide +kernel) (by decide +kernel)
  case both =>
    exact @said _ _ (.make .s3 none "/a/") (.make .s3 none "/a/b") _ _ _ _ (by decide +kernel)
      (by decide +kernel) (by decide) (by decide +kernel) (by decide +kernel)
  case empty =>
    exact @said _ _ (.make .s3 none "/a/") (.make .s3 none "/a/b/") _ _ _ _ (by decide +kernel)
      (by decide +kernel) (by decide) (by decide +kernel) (by decide +kernel)
  case dot =>
    exact @said _ _ (.make .s3 none "/a/") (.make .s3 none "/a/") _ _ _ _ (by decide +kernel)
      (by decide +kernel) (by decide) (by decide +kernel) (by decide +kernel)
  case host =>
    exact @said _ _ (.make .s3 (some "h/") "/") (.make .s3 (some "h/") "/c") _ _ _ _
      (by decide +kernel) (by decide +kernel) (by decide) (by decide +kernel) (by decide +kernel)

end Depot.Repository
