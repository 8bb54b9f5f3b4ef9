import Depot.Proofs.Children
import Depot.Proofs.Resolution

/-!
Written forms of paths. A path is read back from its written form exactly if its host holds no
delimiter, since the host is read up to the first one. So it is with every path that is read from a
text, that stands for a location, or that is reached from such paths.
-/

namespace Depot

theorem Scheme.split?_name_append (scheme : Scheme) (rest : List Char) :
    split? (String.ofList (scheme.name.toList ++ ':' :: rest)) =
      some (scheme, String.ofList rest) := by
  unfold split?
  rw [String.toList_ofList]
  cases scheme <;> rfl

namespace LogicalPath

variable {path : LogicalPath}

/-! ## Reading what was written -/

/-- Whether the host of a path, if it has one, holds no delimiter. -/
def HasPlainHost (path : LogicalPath) : Prop :=
  ∀ host, path.host = some host → delimiter ∉ host.toList

theorem uri_eq (path : LogicalPath) :
    path.uri = String.ofList (path.scheme.name.toList ++
      ':' :: ([delimiter, delimiter] ++ ((path.host.getD "").toList ++ path.path.toList))) := by
  rw [← String.toList_inj]
  simp [uri, delimiter]

/-- Every written form can be read. -/
theorem exists_parse_uri (path : LogicalPath) : ∃ other, parse path.uri = .ok other := by
  apply exists_parse
  rw [uri_eq, Scheme.split?_name_append, Option.isSome_some]

theorem parse_uri_of_plain (plain : path.HasPlainHost) : parse path.uri = .ok path := by
  rcases path.path_eq_cons with ⟨rest, isPath⟩
  have plainText : delimiter ∉ (path.host.getD "").toList := by
    cases isHost : path.host with
    | none => exact List.not_mem_nil
    | some host => exact plain host isHost
  have opens : Text.dropLead? ['/', '/']
      ([delimiter, delimiter] ++ ((path.host.getD "").toList ++ path.path.toList)) =
        some ((path.host.getD "").toList ++ path.path.toList) :=
    Text.dropLead?_eq_some_iff.mpr rfl
  have cut : Text.cutAt? delimiter ((path.host.getD "").toList ++ path.path.toList) =
      some ((path.host.getD "").toList, rest) := by
    rw [isPath, Text.cutAt?_append plainText]
  have sameHost : make path.scheme (some (path.host.getD "")) path.path =
      make path.scheme path.host path.path := by
    cases path.host <;> rfl
  rw [parse, uri_eq, Scheme.split?_name_append]
  simp only [String.toList_ofList, opens, cut]
  rw [← isPath, String.ofList_toList, String.ofList_toList, sameHost, Namespace.make_self]

/-- With a delimiter in the host, another path is read. -/
theorem exists_parse_uri_ne {host : String} (isHost : path.host = some host)
    (member : delimiter ∈ host.toList) : ∃ other, parse path.uri = .ok other ∧ other ≠ path := by
  rcases exists_parse_uri path with ⟨other, parsed⟩
  refine ⟨other, parsed, ?_⟩
  rintro rfl
  exact (parse_eq_ok parsed).2 host isHost member

/-! ## Paths that come about -/

/-- The paths that come about: those that are read, the roots, those that are made with a plain
host, those that stand for a location, and those that are reached from such paths. -/
inductive Arises : LogicalPath → Prop
  | read {raw : String} {path : LogicalPath} (parsed : parse raw = .ok path) : Arises path
  | root (scheme : Scheme) : Arises (root scheme)
  | make (scheme : Scheme) {host : Option String} (text : String)
      (plain : ∀ name, host = some name → delimiter ∉ name.toList) : Arises (make scheme host text)
  | normalize {layout : Namespace} {location : String} {path : LogicalPath}
      (normalized : layout.normalize location = .ok path) : Arises path
  | resolve {layout : Namespace} {base path : LogicalPath} {components : List String}
      (arises : Arises base) (resolved : layout.resolve base components = .ok path) : Arises path
  | resolveDirectory {layout : Namespace} {base path : LogicalPath} {components : List String}
      (arises : Arises base) (resolved : layout.resolveDirectory base components = .ok path) :
      Arises path
  | asDirectory {base : LogicalPath} (arises : Arises base) : Arises base.asDirectory

theorem hasPlainHost_root (scheme : Scheme) : (root scheme).HasPlainHost :=
  fun _ isHost => nomatch host_of_make isHost

theorem HasPlainHost.asDirectory (plain : path.HasPlainHost) : path.asDirectory.HasPlainHost := by
  rw [HasPlainHost, host_asDirectory]
  exact plain

theorem HasPlainHost.of_resolveAs {asDirectory : Bool} {layout : Namespace} {base : LogicalPath}
    {components : List String} (plain : base.HasPlainHost)
    (resolved : layout.resolveAs asDirectory base components = .ok path) : path.HasPlainHost := by
  by_cases sameScheme : base.scheme = layout.scheme
  · by_cases nothing : asDirectory = true ∧ components = []
    · rcases nothing with ⟨rfl, rfl⟩
      rw [Namespace.resolveAs, if_neg (not_not_intro sameScheme)] at resolved
      cases resolved
      exact plain.asDirectory
    · rw [Namespace.resolveAs_eq asDirectory sameScheme (not_and.mp nothing)] at resolved
      cases resolved
      rw [HasPlainHost, Namespace.host_below]
      rcases Namespace.origin_eq_or layout base components with isRoot | isBase
      · rw [isRoot]
        exact hasPlainHost_root layout.scheme
      · rw [isBase]
        exact plain
  · rw [Namespace.resolveAs, if_pos sameScheme] at resolved
    cases resolved

theorem Arises.hasPlainHost (arises : Arises path) : path.HasPlainHost := by
  induction arises with
  | read parsed => exact (parse_eq_ok parsed).2
  | root scheme => exact hasPlainHost_root scheme
  | make scheme text plain => exact fun host isHost => plain host (host_of_make isHost)
  | normalize normalized => exact (Namespace.normalize_eq_ok normalized).2
  | resolve arises resolved plain => exact plain.of_resolveAs resolved
  | resolveDirectory arises resolved plain => exact plain.of_resolveAs resolved
  | asDirectory arises plain => exact plain.asDirectory

/-- A path is read back from its written form exactly if its host holds no delimiter. So is every
path that comes about, while a path that is made with a delimiter in its host is read as another
one. Writing what was read changes nothing for the next reader, and no two paths that come about are
written alike. -/
theorem uri_faithful :
    (∀ path : LogicalPath, parse path.uri = .ok path ↔ path.HasPlainHost) ∧
    (∀ path, Arises path → parse path.uri = .ok path) ∧
    (∀ scheme host text, delimiter ∈ host.toList →
      ∃ other, parse (make scheme (some host) text).uri = .ok other ∧
        other ≠ make scheme (some host) text) ∧
    (∀ raw path, parse raw = .ok path → parse path.uri = parse raw) ∧
    ∀ left right, Arises left → Arises right → left.uri = right.uri → left = right := by
  have readsBack (path : LogicalPath) (arises : Arises path) : parse path.uri = .ok path :=
    parse_uri_of_plain arises.hasPlainHost
  refine ⟨fun path => ⟨fun parsed => (parse_eq_ok parsed).2, parse_uri_of_plain⟩, readsBack,
    ?slashed, ?again, ?alike⟩
  case slashed =>
    intro scheme host text member
    have something : host ≠ "" := by
      rintro rfl
      cases member
    have isHost : (make scheme (some host) text).host = some host := by
      simp [make, Option.filter, something]
    exact exists_parse_uri_ne isHost member
  case again =>
    intro raw path parsed
    rw [parsed, readsBack path (.read parsed)]
  case alike =>
    intro left right leftArises rightArises sameUri
    have sameParse := congrArg parse sameUri
    rw [readsBack left leftArises, readsBack right rightArises] at sameParse
    exact Except.ok.inj sameParse

private def shelf : LogicalPath := make .s3 none "/shelf//a/"

private theorem parse_shelf : parse "S3:shelf//a/" = .ok shelf := by
  rfl

private theorem normalize_shelf : Namespace.hierarchical.normalize "/shelf//a" = .ok shelf := by
  rfl

theorem uri_faithful_shelf :
    ∃ spelled located : LogicalPath, parse "S3:shelf//a/" = .ok spelled ∧
      Namespace.hierarchical.normalize "/shelf//a" = .ok located ∧
      Arises spelled ∧ Arises located ∧ parse spelled.uri = .ok spelled ∧
      parse spelled.uri = parse "S3:shelf//a/" ∧ spelled.uri = located.uri ∧ spelled = located ∧
      delimiter ∈ "deep/shelf".toList ∧
      ∃ other, parse (make .s3 (some "deep/shelf") "a").uri = .ok other ∧
        other ≠ make .s3 (some "deep/shelf") "a" := by
  rcases uri_faithful with ⟨-, readsBack, slashed, again, alike⟩
  have spelled : Arises shelf := .read parse_shelf
  have located : Arises shelf := .normalize normalize_shelf
  have member : delimiter ∈ "deep/shelf".toList := by decide +kernel
  exact ⟨shelf, shelf, parse_shelf, normalize_shelf, spelled, located, readsBack shelf spelled,
    again _ shelf parse_shelf, rfl, alike shelf shelf spelled located rfl, member,
    slashed .s3 "deep/shelf" "a" member⟩

end LogicalPath

end Depot
