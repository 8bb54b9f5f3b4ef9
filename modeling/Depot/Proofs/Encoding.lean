import Mathlib.Data.List.Sort
import Mathlib.Data.Prod.Lex
import Depot.Bytes
import Depot.Proofs.ByteOrder
import Depot.Proofs.Children
import Depot.Proofs.Segments
import Depot.S3.Address

/-!
Keys and queries as they are written in the location of a request. A byte that is encoded is read as
it was, and all else is left alone, as long as the percent sign itself is encoded. The separators of
levels and of parameters are encoded wherever they are part of a text, so what is written says where
each text begins and ends.
-/

namespace Depot

namespace Text

/-- What stands in front of the first text stands in front of all of them. -/
theorem join_append_first (separator front text : List Char) (others : List (List Char)) :
    join separator ((front ++ text) :: others) = front ++ join separator (text :: others) := by
  cases others with
  | nil => simp [join]
  | cons next others => rw [join_cons_cons, join_cons_cons, List.append_assoc, List.append_assoc,
      List.append_assoc]

/-- Filled texts that do not hold the separator are known by what they are joined to. -/
theorem filter_pieces_join {separator : Char} {texts : List (List Char)}
    (plain : ∀ text ∈ texts, separator ∉ text) (filled : ∀ text ∈ texts, text ≠ []) :
    (pieces separator (join [separator] texts)).filter (· ≠ []) = texts := by
  by_cases nothing : texts = []
  · subst nothing
    rfl
  · rw [pieces_join plain nothing, List.filter_eq_self]
    simpa using filled

end Text

namespace Http.Percent

open String (utf8EncodeChar)

variable {keeps : Char → Bool} {character : Char}

/-! ## Decoding -/

/-- The digit that stands for a value below sixteen. -/
def digit (value : Nat) : Char := (Numeral.hexDigit value).toUpper

theorem encodedByte_eq (byte : UInt8) :
    encodedByte byte = ['%', digit (byte.toNat / 16), digit (byte.toNat % 16)] := rfl

theorem isAlphanum_digit : ∀ value < 16, (digit value).isAlphanum = true := by
  decide

theorem utf8EncodeChar_digit :
    ∀ value < 16, utf8EncodeChar (digit value) = [(digit value).toUInt8] := by
  decide

theorem byteOf?_digit : ∀ high < 16, ∀ low < 16,
    byteOf? (digit high).toUInt8 (digit low).toUInt8 = some (UInt8.ofNat (high * 16 + low)) := by
  decide

theorem decode_encodedByte (byte : UInt8) (rest : List UInt8) :
    decode ((encodedByte byte).flatMap utf8EncodeChar ++ rest) = byte :: decode rest := by
  have bound := byte.toNat_lt
  have high : byte.toNat / 16 < 16 := by omega
  have low : byte.toNat % 16 < 16 := by omega
  have percent : utf8EncodeChar '%' = [0x25] := rfl
  have digits : byte.toNat / 16 * 16 + byte.toNat % 16 = byte.toNat := by omega
  rw [encodedByte_eq, List.flatMap_cons, List.flatMap_cons, List.flatMap_singleton, percent,
    utf8EncodeChar_digit _ high, utf8EncodeChar_digit _ low]
  simp only [List.cons_append, List.nil_append]
  rw [decode, byteOf?_digit _ high _ low, digits, UInt8.ofNat_toNat]

theorem decode_encodedBytes (bytes rest : List UInt8) :
    decode ((bytes.flatMap encodedByte).flatMap utf8EncodeChar ++ rest) = bytes ++ decode rest := by
  induction bytes with
  | nil => rfl
  | cons byte bytes induction =>
      rw [List.flatMap_cons, List.flatMap_append, List.append_assoc, decode_encodedByte, induction,
        List.cons_append]

theorem decode_cons_of_ne {byte : UInt8} (notPercent : byte ≠ 0x25) (rest : List UInt8) :
    decode (byte :: rest) = byte :: decode rest := by
  rw [decode]
  intro _ _ _ isPercent
  exact absurd isPercent notPercent

/-- Bytes without a percent sign are left alone. -/
theorem decode_append_of_plain {bytes : List UInt8} (plain : 0x25 ∉ bytes) (rest : List UInt8) :
    decode (bytes ++ rest) = bytes ++ decode rest := by
  induction bytes with
  | nil => rfl
  | cons byte bytes induction =>
      rw [List.mem_cons, not_or] at plain
      rw [List.cons_append, decode_cons_of_ne (Ne.symm plain.1), induction plain.2, List.cons_append]

/-- Only a sign of ASCII itself is written with its byte. -/
theorem not_mem_utf8EncodeChar {sign : Char} (isAscii : sign.toNat < 0x80)
    (different : character ≠ sign) : UInt8.ofNat sign.toNat ∉ utf8EncodeChar character := by
  have code : character.val.toNat ≠ sign.toNat := fun same => different (Char.toNat_inj.mp same)
  have bound : character.val.toNat < 0x110000 := by
    have valid := character.valid
    simp only [UInt32.isValidChar, Nat.isValidChar] at valid
    omega
  simp only [utf8EncodeChar]
  generalize character.val.toNat = value at *
  generalize sign.toNat = number at *
  split_ifs <;>
    simp only [List.mem_cons, List.not_mem_nil, or_false, ← UInt8.toNat_inj,
      UInt8.toNat_ofNat'] <;>
    omega

theorem encode_cons (keeps : Char → Bool) (first : Char) (text : List Char) :
    encode keeps (first :: text) =
      (if keeps first = true then [first] else (utf8EncodeChar first).flatMap encodedByte) ++
        encode keeps text := rfl

theorem encode_eq_self {text : List Char}
    (kept : ∀ character ∈ text, keeps character = true) : encode keeps text = text := by
  induction text with
  | nil => rfl
  | cons first text induction =>
      rw [List.forall_mem_cons] at kept
      rw [encode_cons, if_pos kept.1, induction kept.2, List.singleton_append]

/-- What is encoded is read as it was. -/
theorem decode_encode (escapes : keeps '%' = false) (text : List Char) (rest : List UInt8) :
    decode ((encode keeps text).flatMap utf8EncodeChar ++ rest) =
      text.flatMap utf8EncodeChar ++ decode rest := by
  induction text with
  | nil => rfl
  | cons first text induction =>
      rw [encode_cons, List.flatMap_append, List.flatMap_cons, List.append_assoc, List.append_assoc,
        ← induction]
      split
      next kept =>
        have notPercent : first ≠ '%' := by
          rintro rfl
          rw [escapes] at kept
          cases kept
        rw [List.flatMap_singleton,
          decode_append_of_plain (not_mem_utf8EncodeChar (by decide) notPercent)]
      next => rw [decode_encodedBytes]

/-- A text in which what is percent-encoded is decoded, if that is text. -/
def decodeText? (text : String) : Option String :=
  String.fromUTF8? (Bytes.ofList (decode (Text.bytes text)))

theorem decodeText?_encode (escapes : keeps '%' = false) (text : String) :
    decodeText? (String.ofList (encode keeps text.toList)) = some text := by
  have bytes : decode (Text.bytes (String.ofList (encode keeps text.toList))) = Text.bytes text := by
    have read := decode_encode escapes text.toList []
    rwa [List.append_nil, decode, List.append_nil, ← Text.bytes_eq_flatMap,
      ← String.toList_ofList (l := encode keeps text.toList), ← Text.bytes_eq_flatMap] at read
  rw [decodeText?, bytes, Text.bytes, Bytes.ofList_toList]
  exact dif_pos text.isValidUTF8

/-! ## What is written -/

theorem mem_encodedByte {byte : UInt8} (member : character ∈ encodedByte byte) :
    character = '%' ∨ character.isAlphanum = true := by
  have bound := byte.toNat_lt
  have high := isAlphanum_digit (byte.toNat / 16) (by omega)
  have low := isAlphanum_digit (byte.toNat % 16) (by omega)
  rw [encodedByte_eq] at member
  rcases List.mem_cons.mp member with isPercent | member
  · exact .inl isPercent
  · rcases List.mem_cons.mp member with rfl | member
    · exact .inr high
    · exact .inr (List.mem_singleton.mp member ▸ low)

/-- A written character is one that is kept, or is part of an encoded byte. -/
theorem mem_encode {text : List Char} (member : character ∈ encode keeps text) :
    keeps character = true ∨ character = '%' ∨ character.isAlphanum = true := by
  rcases List.mem_flatMap.mp member with ⟨source, -, written⟩
  split at written
  next kept =>
    cases List.mem_singleton.mp written
    exact .inl kept
  next =>
    rcases List.mem_flatMap.mp written with ⟨byte, -, isPart⟩
    exact .inr (mem_encodedByte isPart)

/-- A sign that is kept is written as often as it is in the text. -/
theorem count_encode (kept : keeps character = true) (notPercent : character ≠ '%')
    (isSign : character.isAlphanum = false) (text : List Char) :
    (encode keeps text).count character = text.count character := by
  induction text with
  | nil => rfl
  | cons first text induction =>
      rw [encode_cons, List.count_append, induction, List.count_cons, Nat.add_comm]
      congr 1
      split
      next => rw [List.count_singleton]
      next encoded =>
        have different : (first == character) = false := by
          rw [beq_eq_false_iff_ne]
          rintro rfl
          exact encoded kept
        have absent : character ∉ (utf8EncodeChar first).flatMap encodedByte := by
          intro member
          rcases List.mem_flatMap.mp member with ⟨byte, -, isPart⟩
          rcases mem_encodedByte isPart with isPercent | isAlphanum
          · exact notPercent isPercent
          · rw [isSign] at isAlphanum
            cases isAlphanum
        rw [List.count_eq_zero.mpr absent, different]
        rfl

end Http.Percent

namespace S3

open Http

/-! ## Keys -/

/-- Whether a character of a key is written as it is. -/
def staysInKey (character : Char) : Bool := isUnreserved character || character == '/'

theorem isUnreserved_of_isAlphanum {character : Char} (isAlphanum : character.isAlphanum = true) :
    isUnreserved character = true := by
  simp [isUnreserved, isAlphanum]

/-- The levels of a key are encoded apart, that is, all of it is but the delimiters. -/
theorem encodeKey_eq (key : String) :
    encodeKey key = String.ofList (Percent.encode staysInKey key.toList) := by
  rw [encodeKey]
  congr 1
  induction key.toList with
  | nil => rfl
  | cons first text induction =>
      rw [Text.pieces_cons, Percent.encode_cons, ← induction]
      rcases List.exists_cons_of_ne_nil (Text.pieces_ne_nil '/' text) with ⟨piece, others, cut⟩
      rw [cut]
      split
      next isDelimiter =>
        rw [isDelimiter, if_pos (by decide), List.map_cons, List.map_cons, Text.join_cons_cons]
        rfl
      next notDelimiter =>
        have sameKept : staysInKey first = isUnreserved first := by
          simp [staysInKey, notDelimiter]
        rw [Text.growFirst, List.map_cons, Percent.encode_cons, Text.join_append_first, sameKept]
        rfl

theorem decodeText?_encodeKey (key : String) : Percent.decodeText? (encodeKey key) = some key := by
  rw [encodeKey_eq]
  exact Percent.decodeText?_encode (by decide) key

theorem decodeText?_encodeText (text : String) :
    Percent.decodeText? (encodeText text) = some text :=
  Percent.decodeText?_encode (by decide) text

theorem encodeText_injective : Function.Injective encodeText := by
  intro left right same
  have read := decodeText?_encodeText left
  rw [same, decodeText?_encodeText, Option.some.injEq] at read
  exact read.symm

theorem count_encodeKey (key : String) :
    (encodeKey key).toList.count '/' = key.toList.count '/' := by
  rw [encodeKey_eq, String.toList_ofList]
  exact Percent.count_encode (by decide) (by decide) (by decide) key.toList

theorem mem_encodeKey {key : String} {character : Char}
    (member : character ∈ (encodeKey key).toList) :
    isUnreserved character = true ∨ character = '%' ∨ character = '/' := by
  rw [encodeKey_eq, String.toList_ofList] at member
  rcases Percent.mem_encode member with stays | isPercent | isAlphanum
  · rw [staysInKey, Bool.or_eq_true, beq_iff_eq] at stays
    exact stays.imp_right .inr
  · exact .inr (.inl isPercent)
  · exact .inl (isUnreserved_of_isAlphanum isAlphanum)

theorem mem_encodeText {text : String} {character : Char}
    (member : character ∈ (encodeText text).toList) :
    isUnreserved character = true ∨ character = '%' := by
  rw [encodeText, String.toList_ofList] at member
  rcases Percent.mem_encode member with stays | isPercent | isAlphanum
  · exact .inl stays
  · exact .inr isPercent
  · exact .inl (isUnreserved_of_isAlphanum isAlphanum)

/-! ## Queries -/

/-- A parameter as it is written: its name and its value, both encoded. -/
def written (parameter : String × String) : List Char :=
  (encodeText parameter.1).toList ++ '=' :: (encodeText parameter.2).toList

/-- Whether a parameter is written before another, or where the other would be. -/
def writtenLe (left right : String × String) : Bool :=
  parameterLe (encodeText left.1, encodeText left.2) (encodeText right.1, encodeText right.2)

variable {left right : List (String × String)}

theorem writtenLe_iff {left right : String × String} :
    writtenLe left right = true ↔
      toLex (encodeText left.1, encodeText left.2) ≤
        toLex (encodeText right.1, encodeText right.2) := by
  simp only [Prod.Lex.toLex_le_toLex, writtenLe, parameterLe, Bool.or_eq_true, Bool.and_eq_true,
    decide_eq_true_eq, beq_iff_eq, Bool.not_eq_true', decide_eq_false_iff_not, not_lt]

/-- Only the parameter itself is written before a parameter and after it. -/
theorem eq_of_writtenLe {left right : String × String} (early : writtenLe left right = true)
    (late : writtenLe right left = true) : left = right := by
  rw [writtenLe_iff] at early late
  have same := toLex.injective (le_antisymm early late)
  rw [Prod.mk.injEq] at same
  exact Prod.ext (encodeText_injective same.1) (encodeText_injective same.2)

theorem sorted_mergeSort (parameters : List (String × String)) :
    (parameters.mergeSort writtenLe).Pairwise fun left right => writtenLe left right = true := by
  apply List.pairwise_mergeSort
  · intro first second third early late
    rw [writtenLe_iff] at *
    exact early.trans late
  · intro first second
    rw [Bool.or_eq_true, writtenLe_iff, writtenLe_iff]
    exact le_total _ _

/-- In their order, parameters are known by which of them there are, and how often. -/
theorem mergeSort_eq_iff_perm :
    left.mergeSort writtenLe = right.mergeSort writtenLe ↔ left.Perm right := by
  constructor
  · intro same
    exact (List.mergeSort_perm left _).symm.trans (same ▸ List.mergeSort_perm right _)
  · intro permuted
    have sorted : (left.mergeSort writtenLe).Perm (right.mergeSort writtenLe) :=
      (List.mergeSort_perm left _).trans (permuted.trans (List.mergeSort_perm right _).symm)
    exact sorted.eq_of_pairwise (fun _ _ _ _ => eq_of_writtenLe) (sorted_mergeSort left)
      (sorted_mergeSort right)

theorem canonicalQuery_eq (parameters : List (String × String)) :
    canonicalQuery parameters =
      String.ofList (Text.join ['&'] ((parameters.mergeSort writtenLe).map written)) := by
  have unfolded : canonicalQuery parameters =
      Text.joinStrings "&" (((parameters.map fun parameter =>
        (encodeText parameter.1, encodeText parameter.2)).mergeSort parameterLe).map fun encoded =>
          encoded.1 ++ "=" ++ encoded.2) := rfl
  have sorted : (parameters.map fun parameter =>
      (encodeText parameter.1, encodeText parameter.2)).mergeSort parameterLe =
        (parameters.mergeSort writtenLe).map fun parameter =>
          (encodeText parameter.1, encodeText parameter.2) := by
    symm
    apply List.map_mergeSort
    intros
    rfl
  have asWritten (parameter : String × String) :
      (encodeText parameter.1 ++ "=" ++ encodeText parameter.2).toList = written parameter := by
    simp [written]
  have ampersand : "&".toList = ['&'] := rfl
  simp only [unfolded, Text.joinStrings, sorted, ampersand, List.map_map, Function.comp_def,
    asWritten]

theorem not_mem_encodeText {sign : Char} (isSign : isUnreserved sign = false)
    (notPercent : sign ≠ '%') (text : String) : sign ∉ (encodeText text).toList := by
  intro member
  rcases mem_encodeText member with stays | isPercent
  · rw [isSign] at stays
    cases stays
  · exact notPercent isPercent

/-- A query is written in the characters of encoded texts and the signs that part them. -/
theorem mem_canonicalQuery {parameters : List (String × String)} {character : Char}
    (member : character ∈ (canonicalQuery parameters).toList) :
    isUnreserved character = true ∨ character = '%' ∨ character = '=' ∨ character = '&' := by
  rw [canonicalQuery_eq, String.toList_ofList] at member
  rcases Text.mem_of_mem_join member with between | ⟨piece, isPiece, within⟩
  · exact .inr (.inr (.inr (List.mem_singleton.mp between)))
  · rcases List.mem_map.mp isPiece with ⟨parameter, -, rfl⟩
    rw [written, List.mem_append, List.mem_cons] at within
    rcases within with inName | isEquals | inValue
    · exact (mem_encodeText inName).imp_right .inl
    · exact .inr (.inr (.inl isEquals))
    · exact (mem_encodeText inValue).imp_right .inl

/-- A parameter is written with nothing that could part it from others. -/
theorem ampersand_not_mem_written (parameter : String × String) : '&' ∉ written parameter := by
  have plain : ∀ text, '&' ∉ (encodeText text).toList := not_mem_encodeText (by decide) (by decide)
  simp [written, plain]

theorem written_injective : Function.Injective written := by
  have read (parameter : String × String) : Text.cutAt? '=' (written parameter) =
      some ((encodeText parameter.1).toList, (encodeText parameter.2).toList) :=
    Text.cutAt?_append (not_mem_encodeText (by decide) (by decide) parameter.1) _
  intro left right same
  have sameRead := read left
  rw [same, read right, Option.some.injEq, Prod.mk.injEq, String.toList_inj, String.toList_inj]
    at sameRead
  exact Prod.ext (encodeText_injective sameRead.1.symm) (encodeText_injective sameRead.2.symm)

/-- Queries are the same exactly if their parameters are, in any order. -/
theorem canonicalQuery_eq_iff : canonicalQuery left = canonicalQuery right ↔ left.Perm right := by
  have pieces (parameters : List (String × String)) :
      (Text.pieces '&' (canonicalQuery parameters).toList).filter (· ≠ []) =
        (parameters.mergeSort writtenLe).map written := by
    have plain : ∀ text ∈ (parameters.mergeSort writtenLe).map written, '&' ∉ text :=
      List.forall_mem_map.mpr fun parameter _ => ampersand_not_mem_written parameter
    have filled : ∀ text ∈ (parameters.mergeSort writtenLe).map written, text ≠ [] :=
      List.forall_mem_map.mpr fun parameter _ => by simp [written]
    rw [canonicalQuery_eq, String.toList_ofList, Text.filter_pieces_join plain filled]
  rw [← mergeSort_eq_iff_perm]
  constructor
  · intro same
    have samePieces := pieces left
    rw [same, pieces right] at samePieces
    exact (List.map_injective_iff.mpr written_injective samePieces).symm
  · intro same
    rw [canonicalQuery_eq, canonicalQuery_eq, same]

/-- What a request asks for can be told from how it is written. A key keeps its delimiters and is
otherwise written in characters that stand for themselves and percent signs, and decoding gives it
back; two queries are written alike exactly if they have the same parameters, each as often, in any
order. -/
theorem addresses_unambiguous :
    (∀ key, (encodeKey key).toList.count '/' = key.toList.count '/' ∧
      ((encodeKey key).toList.all fun character =>
        isUnreserved character || character == '%' || character == '/') = true ∧
      Percent.decodeText? (encodeKey key) = some key) ∧
    ∀ left right, canonicalQuery left = canonicalQuery right ↔ left.Perm right := by
  refine ⟨?keys, fun left right => canonicalQuery_eq_iff⟩
  intro key
  refine ⟨count_encodeKey key, ?_, decodeText?_encodeKey key⟩
  rw [List.all_eq_true]
  intro character member
  rw [Bool.or_eq_true, Bool.or_eq_true, beq_iff_eq, beq_iff_eq, or_assoc]
  exact mem_encodeKey member

end S3

end Depot
