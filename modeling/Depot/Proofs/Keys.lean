import Depot.Path.Key

/-!
How keys lie below one another. A directory encloses a key if it ends in the delimiter and something
follows it in the key; the parent of a key encloses it, and so do all its ancestors. A key and its
directory form differ only in the delimiters at their end.
-/

namespace Depot.Text

/-! ## The two ends of a text -/

theorem endsWith_iff {character : Char} {text : List Char} :
    endsWith character text = true ↔ ∃ before, text = before ++ [character] := by
  simp only [endsWith, beq_iff_eq, List.getLast?_eq_some_iff]

@[simp] theorem endsWith_concat (character last : Char) (text : List Char) :
    endsWith character (text ++ [last]) = (last == character) := by
  simp [endsWith]

theorem endsWith_append {character : Char} {right : List Char} (left : List Char)
    (something : right ≠ []) : endsWith character (left ++ right) = endsWith character right := by
  rcases List.eq_nil_or_concat right with nothing | ⟨others, last, rfl⟩
  · exact absurd nothing something
  · rw [List.concat_eq_append, ← List.append_assoc, endsWith_concat, endsWith_concat]

theorem ne_nil_of_endsWith {character : Char} {text : List Char}
    (isClosed : endsWith character text = true) : text ≠ [] := by
  rintro rfl
  cases isClosed

theorem endsWith_of_not_mem {character : Char} {text : List Char} (plain : character ∉ text) :
    endsWith character text = false := by
  rw [Bool.eq_false_iff]
  intro isClosed
  rcases endsWith_iff.mp isClosed with ⟨before, rfl⟩
  simp at plain

theorem slash_toList : "/".toList = [delimiter] := rfl

theorem endsWith_slash (front : String) : endsWith delimiter (front ++ "/").toList = true := by
  rw [String.toList_append, slash_toList, endsWith_concat, beq_self_eq_true]

/-- A run of a character at the end is all that trimming takes away. -/
theorem trimEnd_append_replicate (character : Char) (text : List Char) :
    ∃ count, text = trimEnd character text ++ List.replicate count character := by
  refine ⟨(text.reverse.takeWhile (· == character)).length, ?_⟩
  have run : text.reverse.takeWhile (· == character) =
      List.replicate (text.reverse.takeWhile (· == character)).length character := by
    refine List.eq_replicate_iff.mpr ⟨rfl, fun other member => ?_⟩
    simpa using List.all_eq_true.mp List.all_takeWhile other member
  have whole := congrArg List.reverse
    (List.takeWhile_append_dropWhile (p := (· == character)) (l := text.reverse))
  rw [List.reverse_append, List.reverse_reverse] at whole
  rw [← List.reverse_replicate, ← run]
  exact whole.symm

/-- A trimmed text does not end in the character. -/
@[simp] theorem endsWith_trimEnd (character : Char) (text : List Char) :
    endsWith character (trimEnd character text) = false := by
  rw [endsWith, trimEnd, List.getLast?_reverse]
  have := List.head?_dropWhile_not (· == character) text.reverse
  cases first : (text.reverse.dropWhile (· == character)).head? <;> simp_all

theorem trimEnd_of_not_endsWith {character : Char} {text : List Char}
    (isOpen : endsWith character text = false) : trimEnd character text = text := by
  rcases trimEnd_append_replicate character text with ⟨count, whole⟩
  cases count with
  | zero => simpa using whole.symm
  | succ count =>
      rw [whole, List.replicate_succ', ← List.append_assoc, endsWith_concat] at isOpen
      simp at isOpen

@[simp] theorem trimEnd_concat_self (character : Char) (text : List Char) :
    trimEnd character (text ++ [character]) = trimEnd character text := by
  simp [trimEnd]

theorem trimEnd_append_replicate_self (character : Char) (text : List Char) (count : Nat) :
    trimEnd character (text ++ List.replicate count character) = trimEnd character text := by
  induction count with
  | zero => simp
  | succ count induction =>
      rw [List.replicate_succ', ← List.append_assoc, trimEnd_concat_self, induction]

/-- Trimming a longer text trims its end, unless that vanishes and what is before can be trimmed. -/
theorem trimEnd_append {character : Char} {left right : List Char}
    (stays : trimEnd character right ≠ [] ∨ endsWith character left = false) :
    trimEnd character (left ++ right) = left ++ trimEnd character right := by
  rcases trimEnd_append_replicate character right with ⟨count, whole⟩
  have untrimmed : endsWith character (left ++ trimEnd character right) = false := by
    have ending := endsWith_trimEnd character right
    rcases List.eq_nil_or_concat (trimEnd character right) with nothing | ⟨others, last, isLast⟩
    · rw [nothing, List.append_nil]
      exact stays.resolve_left fun something => something nothing
    · rw [isLast, List.concat_eq_append, endsWith_concat] at ending
      rw [isLast, List.concat_eq_append, ← List.append_assoc, endsWith_concat, ending]
  conv => lhs; rw [whole]
  rw [← List.append_assoc, trimEnd_append_replicate_self, trimEnd_of_not_endsWith untrimmed]

theorem throughLast?_eq_some {separator : Char} {text kept : List Char}
    (found : throughLast? separator text = some kept) :
    ∃ before after, kept = before ++ [separator] ∧ text = kept ++ after ∧ separator ∉ after := by
  cases dropped : text.reverse.dropWhile (· != separator) with
  | nil => simp [throughLast?, dropped] at found
  | cons first rest =>
      have isSeparator : first = separator := by
        have := List.head?_dropWhile_not (· != separator) text.reverse
        simpa [dropped] using this
      have whole := congrArg List.reverse
        (List.takeWhile_append_dropWhile (p := (· != separator)) (l := text.reverse))
      rw [dropped] at whole
      simp only [throughLast?, dropped, Option.some.injEq] at found
      refine ⟨rest.reverse, (text.reverse.takeWhile (· != separator)).reverse, ?_, ?_, ?_⟩
      · simp [← found, isSeparator]
      · simpa [← found] using whole.symm
      · rw [List.mem_reverse]
        intro member
        simpa using List.all_eq_true.mp List.all_takeWhile separator member

/-- A text that does not start with the character keeps its start when it is trimmed. -/
theorem head?_trimEnd {character : Char} {text : List Char} (goesOn : text.head? ≠ some character) :
    (trimEnd character text).head? = text.head? := by
  rcases trimEnd_append_replicate character text with ⟨count, whole⟩
  cases trimmed : trimEnd character text with
  | nil =>
      rw [trimmed, List.nil_append] at whole
      cases count with
      | zero => rw [whole, List.replicate_zero]
      | succ count =>
          rw [whole] at goesOn
          exact absurd rfl goesOn
  | cons first others =>
      rw [whole, trimmed]
      rfl

/-- What is kept of a text behind a separator has all that stands up to that separator. -/
theorem throughLast?_append {separator : Char} {front : List Char}
    (isClosed : endsWith separator front = true) (text : List Char) :
    ∃ between behind, throughLast? separator (front ++ text) = some (front ++ between) ∧
      text = between ++ behind := by
  rcases endsWith_iff.mp isClosed with ⟨before, isFront⟩
  cases found : throughLast? separator (front ++ text) with
  | none =>
      unfold throughLast? at found
      split at found
      · next nothing =>
        rw [dropWhile_ne_eq_nil_iff, List.mem_reverse, isFront] at nothing
        exact absurd (by simp) nothing
      · cases found
  | some kept =>
      rcases throughLast?_eq_some found with ⟨_, behind, -, whole, plain⟩
      rcases List.append_eq_append_iff.mp whole with
        ⟨between, isKept, isText⟩ | ⟨between, cut, isBehind⟩
      · exact ⟨between, behind, by rw [isKept], isText⟩
      -- No separator is behind what is kept, so the front is not longer.
      · rcases List.eq_nil_or_concat between with nothing | ⟨others, last, isConcat⟩
        · subst nothing
          exact ⟨[], behind, by simp [cut], by simpa using isBehind.symm⟩
        · rw [List.concat_eq_append] at isConcat
          rw [isConcat, isFront, ← List.append_assoc] at cut
          have isLast := (List.append_inj' cut rfl).2
          rw [isBehind, isConcat, ← isLast] at plain
          exact absurd (by simp) plain

end Depot.Text

namespace Depot.ObjectKey

/-! ## Enclosing directories -/

/-- Whether a key is a directory that another key lies properly below. -/
def Encloses (above key : ObjectKey) : Prop :=
  above.isDirectoryForm = true ∧ ∃ rest, rest ≠ [] ∧ key.text.toList = above.text.toList ++ rest

theorem Encloses.trans {top above key : ObjectKey} (outer : top.Encloses above)
    (inner : above.Encloses key) : top.Encloses key := by
  rcases outer with ⟨isDirectory, first, nonempty, aboveText⟩
  rcases inner with ⟨-, second, -, keyText⟩
  exact ⟨isDirectory, first ++ second, by simp [nonempty], by simp [keyText, aboveText]⟩

theorem encloses_of_parent? {key above : ObjectKey} (parent : key.parent? = some above) :
    above.Encloses key := by
  simp only [parent?, Option.map_eq_some_iff] at parent
  rcases parent with ⟨directory, found, rfl⟩
  rcases Text.throughLast?_eq_some found with ⟨before, after, rfl, trimmed, -⟩
  rcases Text.trimEnd_append_replicate delimiter key.text.toList with ⟨count, whole⟩
  refine ⟨by simp [isDirectoryForm], after ++ List.replicate count delimiter, ?_, ?_⟩
  · -- A trimmed key does not end in the delimiter, so something follows its last one.
    intro nothing
    have ending := Text.endsWith_trimEnd delimiter key.text.toList
    rw [trimmed, (List.append_eq_nil_iff.mp nothing).1] at ending
    simp at ending
  · rw [whole, trimmed]
    simp

theorem ancestors_eq (key : ObjectKey) :
    key.ancestors = match key.parent? with
      | none => []
      | some above => above :: above.ancestors := by
  rw [ancestors]
  split <;> simp_all

theorem ancestors_of_parent? {key above : ObjectKey} (parent : key.parent? = some above) :
    key.ancestors = above :: above.ancestors := by
  rw [ancestors_eq, parent]

/-- What passes from the directory around a key to the key holds of every key. -/
@[elab_as_elim]
theorem upwards {motive : ObjectKey → Prop}
    (step : ∀ key, (∀ above, key.parent? = some above → motive above) → motive key)
    (key : ObjectKey) : motive key := by
  induction size : key.length using Nat.strongRecOn generalizing key with
  | ind size induction =>
      apply step
      intro above parent
      exact induction above.length (size ▸ length_parent_lt parent) above rfl

/-- The directory around an ancestor is an ancestor as well. -/
theorem mem_ancestors_of_parent? {key next above : ObjectKey}
    (member : next = key ∨ next ∈ key.ancestors) (parent : next.parent? = some above) :
    above ∈ key.ancestors := by
  induction key using upwards with
  | step key induction =>
      rcases member with rfl | member
      · rw [ancestors_of_parent? parent]
        exact List.mem_cons_self
      · cases around : key.parent? with
        | none => simp [ancestors_eq, around] at member
        | some first =>
            rw [ancestors_of_parent? around] at member ⊢
            exact List.mem_cons_of_mem first (induction first around (List.mem_cons.mp member))

/-- All ancestors enclose the key. -/
theorem encloses_of_mem_ancestors {key above : ObjectKey} (member : above ∈ key.ancestors) :
    above.Encloses key := by
  induction key using upwards with
  | step key induction =>
      cases parent : key.parent? with
      | none => simp [ancestors_eq, parent] at member
      | some next =>
          have encloses := encloses_of_parent? parent
          rw [ancestors_of_parent? parent] at member
          rcases List.mem_cons.mp member with rfl | member
          · exact encloses
          · exact (induction next parent member).trans encloses

/-- A directory in front of a key is one of its ancestors, unless the key goes on with another
delimiter. -/
theorem mem_ancestors_of_append {key above : ObjectKey} {rest : List Char}
    (isDirectory : above.isDirectoryForm = true) (something : rest ≠ [])
    (goesOn : rest.head? ≠ some delimiter)
    (whole : key.text.toList = above.text.toList ++ rest) : above ∈ key.ancestors := by
  induction key using upwards generalizing rest with
  | step key induction =>
      have starts := Text.head?_trimEnd goesOn
      have trimmedSome : Text.trimEnd delimiter rest ≠ [] := by
        intro nothing
        rw [nothing, List.head?_nil] at starts
        exact something (List.head?_eq_none_iff.mp starts.symm)
      rcases Text.throughLast?_append isDirectory (Text.trimEnd delimiter rest) with
        ⟨between, behind, found, isTrimmed⟩
      have parent : key.parent? = some ⟨String.ofList (above.text.toList ++ between)⟩ := by
        rw [parent?, whole, Text.trimEnd_append (.inl trimmedSome), found]
        rfl
      rw [ancestors_of_parent? parent]
      cases between with
      | nil =>
          rw [List.append_nil, String.ofList_toList]
          exact List.mem_cons_self
      | cons first others =>
          apply List.mem_cons_of_mem
          apply induction _ parent (List.cons_ne_nil first others) _ (String.toList_ofList)
          rw [isTrimmed] at starts
          exact starts ▸ goesOn

/-! ## Directory forms -/

theorem isRoot_iff {key : ObjectKey} : key.isRoot = true ↔ key.text = "" ∨ key.text = "/" := by
  simp [isRoot]

@[simp] theorem isRoot_root : root.isRoot = true := rfl

/-- The only root with the form of a directory is a single delimiter. -/
theorem text_of_isRoot {key : ObjectKey} (isRoot : key.isRoot = true)
    (isDirectory : key.isDirectoryForm = true) : key.text = "/" := by
  apply (isRoot_iff.mp isRoot).resolve_left
  intro nothing
  rw [isDirectoryForm, nothing] at isDirectory
  cases isDirectory

theorem asDirectory_of_isDirectoryForm {key : ObjectKey} (notRoot : key.isRoot = false)
    (directory : key.isDirectoryForm = true) : key.asDirectory = key := by
  simp [asDirectory, notRoot, directory]

theorem isDirectoryForm_asDirectory {key : ObjectKey} (notRoot : key.asDirectory.isRoot = false) :
    key.asDirectory.isDirectoryForm = true := by
  rw [asDirectory] at notRoot ⊢
  split at notRoot
  · cases notRoot
  next isNone =>
    rw [if_neg isNone]
    split
    · assumption
    · exact Text.endsWith_slash key.text

/-- The directory form of a parent is the parent itself, or the root. -/
theorem asDirectory_parent {key above : ObjectKey} (parent : key.parent? = some above) :
    above.asDirectory = above ∨ above.asDirectory = root := by
  cases isRoot : above.isRoot with
  | true => exact .inr (by simp [asDirectory, isRoot])
  | false => exact .inl (asDirectory_of_isDirectoryForm isRoot (encloses_of_parent? parent).1)

theorem ancestors_of_isRoot {key : ObjectKey} (isRoot : key.isRoot = true) :
    key.ancestors = [] := by
  have noParent : key.parent? = none := by
    rcases isRoot_iff.mp isRoot with text | text
    · rw [parent?, text]
      decide
    · rw [parent?, text]
      decide
  rw [ancestors_eq, noParent]

theorem ne_of_isDirectoryForm {file directory : ObjectKey} (isFile : file.isDirectoryForm = false)
    (isDirectory : directory.isDirectoryForm = true) : file ≠ directory := by
  rintro rfl
  rw [isDirectory] at isFile
  cases isFile

/-! ## Keys without the delimiters at their end -/

@[simp] theorem text_trimDirectory_toList (key : ObjectKey) :
    key.trimDirectory.text.toList = Text.trimEnd delimiter key.text.toList := by
  simp [trimDirectory]

@[simp] theorem isDirectoryForm_trimDirectory (key : ObjectKey) :
    key.trimDirectory.isDirectoryForm = false := by
  simp [isDirectoryForm]

theorem trimDirectory_of_file {key : ObjectKey} (notDirectory : key.isDirectoryForm = false) :
    key.trimDirectory = key := by
  rw [trimDirectory, Text.trimEnd_of_not_endsWith notDirectory, String.ofList_toList]

@[simp] theorem trimDirectory_trimDirectory (key : ObjectKey) :
    key.trimDirectory.trimDirectory = key.trimDirectory :=
  trimDirectory_of_file (isDirectoryForm_trimDirectory key)

/-- A trimmed key is a root only if nothing is left of it. -/
theorem isRoot_trimDirectory {key : ObjectKey} :
    key.trimDirectory.isRoot = true ↔ key.trimDirectory.text = "" := by
  rw [isRoot_iff, or_iff_left_iff_imp]
  intro slash
  have ending := isDirectoryForm_trimDirectory key
  rw [isDirectoryForm, slash] at ending
  exact absurd ending (by decide)

theorem text_asDirectory_trimDirectory (key : ObjectKey) :
    key.trimDirectory.asDirectory.text =
      if key.trimDirectory.text = "" then "" else key.trimDirectory.text ++ "/" := by
  rw [asDirectory, isDirectoryForm_trimDirectory]
  by_cases nothing : key.trimDirectory.text = ""
  · rw [if_pos (isRoot_trimDirectory.mpr nothing), if_pos nothing]
    rfl
  · rw [if_neg (mt isRoot_trimDirectory.mp nothing), if_neg nothing]
    rfl

@[simp] theorem trimDirectory_asDirectory (key : ObjectKey) :
    key.asDirectory.trimDirectory = key.trimDirectory := by
  unfold asDirectory
  split
  · next isRoot =>
    rcases isRoot_iff.mp isRoot with text | text
    · rw [trimDirectory, trimDirectory, text]
      rfl
    · rw [trimDirectory, trimDirectory, text]
      decide
  · split
    · rfl
    · rw [trimDirectory, trimDirectory, String.toList_append, Text.slash_toList,
        Text.trimEnd_concat_self]

@[simp] theorem isRoot_asDirectory (key : ObjectKey) : key.asDirectory.isRoot = key.isRoot := by
  unfold asDirectory
  split
  · next isRoot => rw [isRoot, isRoot_root]
  · next notRoot =>
    split
    · rfl
    · next notDirectory =>
      have nonempty : key.text ≠ "" := fun empty => notRoot (isRoot_iff.mpr (.inl empty))
      rw [Bool.eq_iff_iff]
      apply iff_of_false _ notRoot
      rw [isRoot_iff]
      intro given
      rcases given with text | text
      · simpa using congrArg String.toList text
      · apply nonempty
        simpa using congrArg String.toList text

end Depot.ObjectKey
