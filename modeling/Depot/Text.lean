/-!
Searching and cutting text. The functions work on lists of characters, so that each has a short
equational description; callers that hold a `String` go through `String.toList` and
`String.ofList`. The main statements say that nothing is lost: the pieces of a cut, put together
again, are the text that was cut.
-/

namespace Depot.Text

/-! ## Leading and trailing characters -/

/-- What follows `lead` in a text, if the text starts with `lead`. -/
def dropLead? : (lead text : List Char) → Option (List Char)
  | [], text => some text
  | _ :: _, [] => none
  | expected :: lead, first :: text =>
      if expected = first then dropLead? lead text else none

def startsWith (lead text : List Char) : Bool := (dropLead? lead text).isSome

theorem dropLead?_cons_self (first : Char) (lead text : List Char) :
    dropLead? (first :: lead) (first :: text) = dropLead? lead text := if_pos rfl

theorem dropLead?_cons_of_ne {expected first : Char} (different : expected ≠ first)
    (lead text : List Char) : dropLead? (expected :: lead) (first :: text) = none :=
  if_neg different

theorem dropLead?_eq_some_iff {lead text rest : List Char} :
    dropLead? lead text = some rest ↔ text = lead ++ rest := by
  fun_induction dropLead? lead text with
  | case1 text => simp [eq_comm]
  | case2 expected lead => simp
  | case3 expected lead text induction => simp [induction]
  | case4 expected lead first text different => simp [Ne.symm different]

theorem startsWith_iff {lead text : List Char} :
    startsWith lead text = true ↔ ∃ rest, text = lead ++ rest := by
  simp [startsWith, Option.isSome_iff_exists, dropLead?_eq_some_iff]

def endsWith (character : Char) (text : List Char) : Bool := text.getLast? == some character

/-- The text without the run of `character` at its end. -/
def trimEnd (character : Char) (text : List Char) : List Char :=
  (text.reverse.dropWhile (· == character)).reverse

def isBlank (character : Char) : Bool :=
  let code := character.toNat
  (0x09 ≤ code && code ≤ 0x0D) || code == 0x20 || code == 0x85 || code == 0xA0 ||
    code == 0x1680 || (0x2000 ≤ code && code ≤ 0x200A) || code == 0x2028 || code == 0x2029 ||
    code == 0x202F || code == 0x205F || code == 0x3000

def trimBlanks (text : String) : String :=
  String.ofList ((text.toList.dropWhile isBlank).reverse.dropWhile isBlank).reverse

/-! ## Cutting at a character -/

/-- The text before the first `separator` and the text after it. -/
def cutAt? (separator : Char) (text : List Char) : Option (List Char × List Char) :=
  match text.dropWhile (· != separator) with
  | [] => none
  | _ :: after => some (text.takeWhile (· != separator), after)

def throughFirst? (separator : Char) (text : List Char) : Option (List Char) :=
  (cutAt? separator text).map fun (before, _) => before ++ [separator]

def throughLast? (separator : Char) (text : List Char) : Option (List Char) :=
  match text.reverse.dropWhile (· != separator) with
  | [] => none
  | kept => some kept.reverse

theorem length_trimEnd_le (character : Char) (text : List Char) :
    (trimEnd character text).length ≤ text.length := by
  rw [trimEnd, List.length_reverse, ← text.length_reverse]
  exact (List.dropWhile_suffix _).length_le

/-- What goes through the last separator of a trimmed text is shorter than the text: a trimmed text
does not end in a separator. -/
theorem length_lt_of_throughLast?_trimEnd {separator : Char} {text front : List Char}
    (found : throughLast? separator (trimEnd separator text) = some front) :
    front.length < text.length := by
  have bound := length_trimEnd_le separator text
  have unlike := List.head?_dropWhile_not (· == separator) text.reverse
  rw [trimEnd, List.length_reverse] at bound
  rw [throughLast?, trimEnd, List.reverse_reverse] at found
  cases trimmed : text.reverse.dropWhile (· == separator) with
  | nil =>
      rw [trimmed] at found
      cases found
  | cons last others =>
      rw [trimmed, List.length_cons] at bound
      rw [trimmed] at found unlike
      rw [List.dropWhile_cons_of_pos (by simpa using unlike)] at found
      split at found
      · cases found
      · cases found
        have shorter := (List.dropWhile_suffix (l := others) (· != separator)).length_le
        rw [List.length_reverse]
        omega

/-- Put a character in front of the first piece. -/
def growFirst (character : Char) : List (List Char) → List (List Char)
  | [] => [[character]]
  | piece :: others => (character :: piece) :: others

/-- The pieces of a text between its separators. The empty text has one piece, the empty one. -/
def pieces (separator : Char) (text : List Char) : List (List Char) :=
  text.foldr (fun character pieces =>
    if character = separator then [] :: pieces else growFirst character pieces) [[]]

/-- The pieces one after another, with `separator` between neighbours. -/
def join (separator : List Char) (pieces : List (List Char)) : List Char :=
  (pieces.intersperse separator).flatten

/-- Strings one after another, with `separator` between neighbours. -/
def joinStrings (separator : String) (texts : List String) : String :=
  String.ofList (join separator.toList (texts.map String.toList))

theorem cutAt?_eq_some {separator : Char} {text before after : List Char}
    (cut : cutAt? separator text = some (before, after)) :
    text = before ++ separator :: after ∧ separator ∉ before := by
  simp only [cutAt?] at cut
  split at cut
  · simp at cut
  · next first rest dropped =>
      simp only [Option.some.injEq, Prod.mk.injEq] at cut
      rcases cut with ⟨rfl, rfl⟩
      have whole := List.takeWhile_append_dropWhile (p := (· != separator)) (l := text)
      have isSeparator : first = separator := by
        have := List.head?_dropWhile_not (· != separator) text
        simpa [dropped] using this
      rw [dropped, isSeparator] at whole
      refine ⟨whole.symm, fun member => ?_⟩
      simpa using List.all_eq_true.mp List.all_takeWhile separator member

theorem dropWhile_ne_eq_nil_iff {separator : Char} {text : List Char} :
    text.dropWhile (· != separator) = [] ↔ separator ∉ text := by
  induction text with
  | nil => simp
  | cons first text induction =>
      by_cases here : first = separator
      · simp [here]
      · simp [here, induction, Ne.symm here]

theorem cutAt?_eq_none_iff {separator : Char} {text : List Char} :
    cutAt? separator text = none ↔ separator ∉ text := by
  rw [← dropWhile_ne_eq_nil_iff]
  simp only [cutAt?]
  split <;> simp_all

@[simp] theorem pieces_nil (separator : Char) : pieces separator [] = [[]] := rfl

theorem pieces_cons (separator first : Char) (text : List Char) :
    pieces separator (first :: text) =
      if first = separator then [] :: pieces separator text
      else growFirst first (pieces separator text) := rfl

theorem pieces_ne_nil (separator : Char) (text : List Char) : pieces separator text ≠ [] := by
  cases text with
  | nil => simp
  | cons first text =>
      rw [pieces_cons]
      split
      · simp
      · cases pieces separator text <;> simp [growFirst]

theorem join_cons_cons (separator piece next : List Char) (others : List (List Char)) :
    join separator (piece :: next :: others) =
      piece ++ separator ++ join separator (next :: others) := by
  simp [join]

theorem join_pieces (separator : Char) (text : List Char) :
    join [separator] (pieces separator text) = text := by
  induction text with
  | nil => rfl
  | cons first text induction =>
      rcases List.exists_cons_of_ne_nil (pieces_ne_nil separator text) with ⟨piece, others, cut⟩
      rw [cut] at induction
      rw [pieces_cons, cut]
      split
      · next here => rw [join_cons_cons, induction, here]; rfl
      · cases others with
        | nil => simp_all [join, growFirst]
        | cons next others =>
            rw [join_cons_cons] at induction
            simp [growFirst, join_cons_cons, ← induction]

/-! ## Cutting at a text -/

/-- The text before the first place where `needle` stands, and the text after that place; `passed`
is the text before all of that, with its last character first. -/
def cutBehind? (needle passed : List Char) : List Char → Option (List Char × List Char)
  | [] => (dropLead? needle []).map fun after => (passed.reverse, after)
  | first :: text =>
      match dropLead? needle (first :: text) with
      | some after => some (passed.reverse, after)
      | none => cutBehind? needle (first :: passed) text

/-- The text before the first place where `needle` stands, and the text after that place. -/
def cutText? (needle text : List Char) : Option (List Char × List Char) :=
  cutBehind? needle [] text

def contains (needle text : List Char) : Bool := (cutText? needle text).isSome

theorem cutBehind?_eq_map (needle passed text : List Char) :
    cutBehind? needle passed text =
      (cutText? needle text).map fun (before, after) => (passed.reverse ++ before, after) := by
  induction text generalizing passed with
  | nil => cases found : dropLead? needle [] <;> simp [cutText?, cutBehind?, found]
  | cons first text induction =>
      cases found : dropLead? needle (first :: text) with
      | some after => simp [cutText?, cutBehind?, found]
      | none =>
          rw [cutText?, cutBehind?, cutBehind?, found]
          simp only
          rw [induction (first :: passed), induction [first], Option.map_map]
          congr 1
          funext cut
          simp

/-- Without the needle at its start, a text is cut behind its first character. -/
theorem cutText?_cons {needle text : List Char} {first : Char}
    (absent : dropLead? needle (first :: text) = none) :
    cutText? needle (first :: text) =
      (cutText? needle text).map fun (before, after) => (first :: before, after) := by
  rw [cutText?, cutBehind?, absent]
  exact cutBehind?_eq_map needle [first] text

theorem cutText?_eq_some {needle text before after : List Char}
    (cut : cutText? needle text = some (before, after)) :
    text = before ++ needle ++ after := by
  induction text generalizing before with
  | nil =>
      simp only [cutText?, cutBehind?, Option.map_eq_some_iff, Prod.mk.injEq] at cut
      rcases cut with ⟨rest, found, rfl, rfl⟩
      simpa using dropLead?_eq_some_iff.mp found
  | cons first text induction =>
      cases found : dropLead? needle (first :: text) with
      | some rest =>
          simp only [cutText?, cutBehind?, found, Option.some.injEq, Prod.mk.injEq] at cut
          rcases cut with ⟨rfl, rfl⟩
          simpa using dropLead?_eq_some_iff.mp found
      | none =>
          simp only [cutText?_cons found, Option.map_eq_some_iff, Prod.mk.injEq,
            Prod.exists] at cut
          rcases cut with ⟨shorter, _, later, rfl, rfl⟩
          simp [induction later]

/-- Replace every place where `expected` and `lead` stand; `done` is the text before with its
replacements, with the last character first. -/
def replaceBehind (expected : Char) (lead replacement done : List Char) : List Char → List Char
  | [] => done.reverse
  | first :: text =>
      match found : dropLead? (expected :: lead) (first :: text) with
      | some after =>
          have shorter : after.length ≤ text.length := by
            have whole := congrArg List.length (dropLead?_eq_some_iff.mp found)
            simp only [List.length_append, List.length_cons] at whole
            omega
          replaceBehind expected lead replacement (replacement.reverseAux done) after
      | none => replaceBehind expected lead replacement (first :: done) text
termination_by text => text.length
decreasing_by all_goals simp <;> omega

/-- The text with every place where `needle` stands, taken from left to right and without overlap,
replaced. An empty needle is never found. -/
def replaceAll (needle replacement text : List Char) : List Char :=
  match needle with
  | [] => text
  | expected :: lead => replaceBehind expected lead replacement [] text

theorem replaceBehind_of_lead {expected : Char} {lead text after : List Char}
    (found : dropLead? (expected :: lead) text = some after) (replacement done : List Char) :
    replaceBehind expected lead replacement done text =
      replaceBehind expected lead replacement (replacement.reverseAux done) after := by
  cases text with
  | nil => simp [dropLead?] at found
  | cons first text =>
      rw [replaceBehind]
      split <;> simp_all

theorem replaceBehind_of_no_lead {expected : Char} {lead text : List Char} {first : Char}
    (absent : dropLead? (expected :: lead) (first :: text) = none)
    (replacement done : List Char) :
    replaceBehind expected lead replacement done (first :: text) =
      replaceBehind expected lead replacement (first :: done) text := by
  rw [replaceBehind]
  split <;> simp_all

theorem replaceBehind_eq_append (expected : Char) (lead replacement done text : List Char) :
    replaceBehind expected lead replacement done text =
      done.reverse ++ replaceAll (expected :: lead) replacement text := by
  simp only [replaceAll]
  induction length : text.length using Nat.strongRecOn generalizing done text with
  | ind count induction =>
      cases text with
      | nil => simp [replaceBehind]
      | cons first text =>
          subst length
          cases found : dropLead? (expected :: lead) (first :: text) with
          | some after =>
              have shorter : after.length < (first :: text).length := by
                have whole := congrArg List.length (dropLead?_eq_some_iff.mp found)
                simp only [List.length_append, List.length_cons] at whole ⊢
                omega
              rw [replaceBehind_of_lead found, replaceBehind_of_lead found,
                induction _ shorter _ _ rfl, induction _ shorter (replacement.reverseAux []) _ rfl]
              simp
          | none =>
              rw [replaceBehind_of_no_lead found, replaceBehind_of_no_lead found,
                induction _ (by simp) _ _ rfl, induction _ (by simp) [first] _ rfl]
              simp

@[simp] theorem replaceAll_nil (needle replacement : List Char) :
    replaceAll needle replacement [] = [] := by
  cases needle <;> simp [replaceAll, replaceBehind]

theorem replaceAll_of_lead {expected : Char} {lead text after : List Char}
    (found : dropLead? (expected :: lead) text = some after) (replacement : List Char) :
    replaceAll (expected :: lead) replacement text =
      replacement ++ replaceAll (expected :: lead) replacement after := by
  rw [replaceAll, replaceBehind_of_lead found, replaceBehind_eq_append]
  simp

/-- Without the needle at its start, a text keeps its first character. -/
theorem replaceAll_of_no_lead {expected : Char} {lead text : List Char} {first : Char}
    (absent : dropLead? (expected :: lead) (first :: text) = none) (replacement : List Char) :
    replaceAll (expected :: lead) replacement (first :: text) =
      first :: replaceAll (expected :: lead) replacement text := by
  rw [replaceAll, replaceBehind_of_no_lead absent, replaceBehind_eq_append]
  simp

/-! ## Letters of ASCII -/

def isAscii (text : List Char) : Bool := text.all (·.toNat < 0x80)

/-- The text with the ASCII capitals made small. -/
def lower (text : String) : String := String.ofList (text.toList.map Char.toLower)

/-- The text with the small ASCII letters made capital. -/
def upper (text : String) : String := String.ofList (text.toList.map Char.toUpper)

/-- Whether two texts differ at most in the case of ASCII letters. -/
def sameLetters (left right : String) : Bool := lower left == lower right

end Depot.Text
