import Mathlib.Tactic.MkIffOfInductiveProp
import Mathlib.Tactic.SplitIfs
import Depot.Config

/-!
Which settings are enough. A value counts if it is not empty, and a value of the environment hides
that of the property even if it is empty itself. Settings are refused for two reasons only: a proxy
without a port, and a store that is not in memory without a bucket or credentials.
-/

namespace Depot

namespace Numeral

/-- Whether a text is a decimal number: digits, perhaps after one plus sign. -/
def IsDecimal (text : String) (number : Nat) : Prop :=
  ∃ digits : List Char, (text.toList = digits ∨ text.toList = '+' :: digits) ∧ digits ≠ [] ∧
    (∀ digit ∈ digits, digit.isDigit) ∧ Nat.ofDigitChars 10 digits 0 = number

theorem le_ofDigitChars (digits : List Char) (value : Nat) :
    value ≤ Nat.ofDigitChars 10 digits value := by
  have positive : 1 ≤ 10 ^ digits.length := Nat.one_le_pow _ _ (by decide)
  calc value = 1 * value := (Nat.one_mul value).symm
    _ ≤ 10 ^ digits.length * value := Nat.mul_le_mul_right value positive
    _ ≤ Nat.ofDigitChars 10 digits value := by
      rw [Nat.ofDigitChars_eq_ofDigitChars_zero]
      exact Nat.le_add_right _ _

/-- Digits are read as long as the number stays within its limit, and it never becomes smaller. -/
theorem readDigits_eq_ok_iff {limit value number : Nat} {digits : List Char}
    (small : value ≤ limit) : readDigits limit value digits = .ok number ↔
      (∀ digit ∈ digits, digit.isDigit) ∧ Nat.ofDigitChars 10 digits value = number ∧
        number ≤ limit := by
  induction digits generalizing value with
  | nil =>
      rw [readDigits, Nat.ofDigitChars_nil, Except.ok.injEq]
      exact ⟨fun same => ⟨by simp, same, same ▸ small⟩, fun all => all.2.1⟩
  | cons digit digits induction =>
      have next : 10 * value + (digit.toNat - '0'.toNat) = value * 10 + (digit.toNat - 48) := by
        rw [Nat.mul_comm]
        rfl
      rw [readDigits, Nat.ofDigitChars_cons, next, List.forall_mem_cons]
      dsimp only
      split_ifs with isDigit fits
      · rw [induction fits, and_iff_right isDigit]
      · refine ⟨nofun, fun all => absurd ?_ fits⟩
        exact Nat.le_trans (le_ofDigitChars digits _) (all.2.1 ▸ all.2.2)
      · exact ⟨nofun, fun all => absurd all.1.1 isDigit⟩

theorem readDecimal_eq_ok_iff {limit number : Nat} {text : String} :
    readDecimal limit text = .ok number ↔ IsDecimal text number ∧ number ≤ limit := by
  have noDigit : ('+' : Char).isDigit = false := rfl
  unfold readDecimal IsDecimal
  split
  next isEmpty => simp [isEmpty]
  next isSign => simp [isSign, noDigit]
  next digits filled isSigned =>
    have filled : digits ≠ [] := filled
    rw [isSigned, readDigits_eq_ok_iff (Nat.zero_le limit)]
    constructor
    · rintro ⟨all, isNumber, fits⟩
      exact ⟨⟨digits, .inr rfl, filled, all, isNumber⟩, fits⟩
    · rintro ⟨⟨_, rfl | same, -, all, isNumber⟩, fits⟩
      · simp [noDigit] at all
      · cases same
        exact ⟨all, isNumber, fits⟩
  next filled noSign isPlain =>
    rw [readDigits_eq_ok_iff (Nat.zero_le limit)]
    constructor
    · rintro ⟨all, isNumber, fits⟩
      exact ⟨⟨text.toList, .inl rfl, filled, all, isNumber⟩, fits⟩
    · rintro ⟨⟨digits, rfl | isSigned, -, all, isNumber⟩, fits⟩
      · exact ⟨all, isNumber, fits⟩
      · exact absurd isSigned (isPlain digits)

example : readDecimal 65535 "+065535" = .ok 65535 := by with_unfolding_all rfl

end Numeral

namespace Settings

variable {properties others : Properties} {environment : String → Option String}
  {value : String → Option String}

/-! ## Values -/

theorem effective_eq_some_iff {name content : String} :
    effective properties environment name = some content ↔ content ≠ "" ∧
      (environment (Setting.environmentName name) = some content ∨
        environment (Setting.environmentName name) = none ∧
          properties.find? name = some content) := by
  simp only [effective, Option.filter_eq_some_iff, Option.or_eq_some_iff, bne_iff_ne]
  exact and_comm

/-- Properties count only where the environment has nothing to say. -/
theorem effective_congr
    (same : ∀ name, environment (Setting.environmentName name) = none →
      others.find? name = properties.find? name) :
    effective others environment = effective properties environment := by
  funext name
  rw [effective, effective]
  cases given : environment (Setting.environmentName name) with
  | none => rw [same name given]
  | some content => rfl

/-! ## Proxies and credentials -/

/-- A proxy needs a port, which is a decimal number of at most sixteen bits. -/
def HasPort (value : String → Option String) : Prop :=
  value Setting.proxyHost = none ∨
    ∃ text port, value Setting.proxyPort = some text ∧ Numeral.IsDecimal text port ∧ port ≤ 65535

/-- A store is in memory if it is said to be, with letters of either case. -/
def InMemory (value : String → Option String) : Prop :=
  ∃ text, value Setting.mock = some text ∧ Text.lower text = "true"

/-- A credential is the value of its setting, or else what the environment has under another
name. -/
def HasCredential (value environment : String → Option String) (name fallback : String) : Prop :=
  ∃ secret, (value name).or (environment fallback) = some secret ∧ secret ≠ ""

/-- What a store that is not in memory needs. -/
@[mk_iff]
structure Reaches (value environment : String → Option String) : Prop where
  bucket : value Setting.bucketName ≠ none
  access : HasCredential value environment Setting.accessKey Setting.fallbackAccessKey
  secret : HasCredential value environment Setting.secretKey Setting.fallbackSecretKey

theorem readPort_eq_ok_iff {text : String} {port : Nat} :
    readPort text = .ok port ↔ Numeral.IsDecimal text port ∧ port ≤ 65535 := by
  rw [← Numeral.readDecimal_eq_ok_iff, readPort]
  cases Numeral.readDecimal 65535 text <;> simp

theorem exists_readPort_iff {text : String} :
    (∃ port, readPort text = .ok port) ↔ ∃ port, Numeral.IsDecimal text port ∧ port ≤ 65535 :=
  exists_congr fun _ => readPort_eq_ok_iff

theorem readProxy_ok_iff : (∃ proxy, readProxy value = .ok proxy) ↔ HasPort value := by
  rw [readProxy, HasPort]
  cases value Setting.proxyHost with
  | none => simp
  | some host =>
      cases value Setting.proxyPort with
      | none => simp
      | some text =>
          simp only [reduceCtorEq, Option.some.injEq, false_or, exists_and_left, exists_eq_left',
            ← exists_readPort_iff]
          cases readPort text <;> simp [Except.map]

theorem config_of_readProxy {error : RepoError} (failed : readProxy value = .error error) :
    ∃ reason, error = .config reason := by
  unfold readProxy at failed
  split at failed
  · cases failed
  · split at failed
    · exact ⟨_, (Except.error.inj failed).symm⟩
    next text _ =>
      unfold readPort at failed
      cases read : Numeral.readDecimal 65535 text with
      | ok port => rw [read] at failed; cases failed
      | error fault =>
          rw [read] at failed
          exact ⟨_, (Except.error.inj failed).symm⟩

/-! ## Complete settings -/

theorem validate_ok_iff {settings : Settings} : (∃ result, settings.validate = .ok result) ↔
    settings.mock = true ∨ settings.bucketName ≠ "" ∧ settings.accessKey ≠ "" ∧
      settings.secretKey ≠ "" := by
  unfold validate
  split_ifs with isMock noBucket noCredential
  · exact iff_of_true ⟨settings, rfl⟩ (.inl isMock)
  · refine iff_of_false nofun ?_
    rintro (mock | ⟨bucket, -⟩)
    · exact isMock mock
    · exact bucket noBucket
  · refine iff_of_false nofun ?_
    rintro (mock | ⟨-, access, secret⟩)
    · exact isMock mock
    · exact noCredential.elim access secret
  · exact iff_of_true ⟨settings, rfl⟩ (.inr ⟨noBucket, not_or.mp noCredential⟩)

theorem config_of_validate {settings : Settings} {error : RepoError}
    (failed : settings.validate = .error error) : ∃ reason, error = .config reason := by
  unfold validate at failed
  split_ifs at failed <;> exact ⟨_, (Except.error.inj failed).symm⟩

theorem getD_ne_empty_iff {content : Option String} :
    content.getD "" ≠ "" ↔ ∃ text, content = some text ∧ text ≠ "" := by
  cases content <;> simp

theorem effective_getD_ne_empty_iff {name : String} :
    (effective properties environment name).getD "" ≠ "" ↔
      effective properties environment name ≠ none := by
  cases given : effective properties environment name with
  | none => simp
  | some content => simpa using (effective_eq_some_iff.mp given).1

theorem map_sameLetters_iff {content : Option String} :
    (content.map (Text.sameLetters "true")).getD false = true ↔
      ∃ text, content = some text ∧ Text.lower text = "true" := by
  have asItself : Text.lower "true" = "true" := by decide
  cases content with
  | none => simp
  | some text =>
      rw [Option.map_some, Option.getD_some, Text.sameLetters, asItself, beq_iff_eq, eq_comm]
      simp

theorem resolve_ok_iff : (∃ settings, resolve properties environment = .ok settings) ↔
    HasPort (effective properties environment) ∧
      (InMemory (effective properties environment) ∨
        Reaches (effective properties environment) environment) := by
  simp only [resolve, bind_eq_ok_iff]
  rw [exists_comm]
  simp only [exists_and_left, validate_ok_iff, map_sameLetters_iff, exists_and_right,
    readProxy_ok_iff]
  rw [effective_getD_ne_empty_iff, getD_ne_empty_iff, getD_ne_empty_iff, reaches_iff]
  rfl

/-- Settings are taken exactly if a proxy has its port and the store is in memory or can be reached;
else the error says that it is the configuration. A variable of the environment hides its property,
also if it is empty, so that no change of the property makes a difference. -/
theorem resolve_exact (properties : Properties) (environment : String → Option String) :
    (∀ name content, effective properties environment name = some content ↔ content ≠ "" ∧
      (environment (Setting.environmentName name) = some content ∨
        environment (Setting.environmentName name) = none ∧
          properties.find? name = some content)) ∧
    ((∃ settings, resolve properties environment = .ok settings) ↔
      HasPort (effective properties environment) ∧
        (InMemory (effective properties environment) ∨
          Reaches (effective properties environment) environment)) ∧
    (∀ error, resolve properties environment = .error error → ∃ reason, error = .config reason) ∧
    ∀ others : Properties,
      (∀ name, environment (Setting.environmentName name) = none →
        others.find? name = properties.find? name) →
      resolve others environment = resolve properties environment := by
  refine ⟨fun _ _ => effective_eq_some_iff, resolve_ok_iff, ?_, ?_⟩
  · intro error failed
    rcases bind_eq_error_iff.mp failed with noProxy | ⟨proxy, -, incomplete⟩
    · exact config_of_readProxy noProxy
    · exact config_of_validate incomplete
  · intro others same
    rw [resolve, resolve, effective_congr same]

/-- An empty variable hides the bucket of the properties, whatever bucket that is, and without a
bucket no store can be reached. -/
theorem resolve_exact_hidden_bucket :
    let shelf : Properties := SortedMap.empty.insert "bucket.name" "shelf"
    let drawer : Properties := SortedMap.empty.insert "bucket.name" "drawer"
    let environment := fun name => if name = "BUCKET_NAME" then some "" else none
    (∀ name, environment (Setting.environmentName name) = none →
      drawer.find? name = shelf.find? name) ∧
    Settings.resolve drawer environment = Settings.resolve shelf environment ∧
    Settings.resolve shelf environment = .error (.config "bucket.name must not be empty") := by
  intro shelf drawer environment
  have hidden : environment (Setting.environmentName "bucket.name") = some "" := by decide +kernel
  have same : ∀ name, environment (Setting.environmentName name) = none →
      drawer.find? name = shelf.find? name := by
    intro name unset
    have other : "bucket.name" ≠ name := by
      rintro rfl
      rw [hidden] at unset
      cases unset
    rw [SortedMap.find?_insert_of_ne _ _ other, SortedMap.find?_insert_of_ne _ _ other]
  exact ⟨same, (resolve_exact shelf environment).2.2.2 drawer same,
    by with_unfolding_all rfl⟩

end Settings

end Depot
