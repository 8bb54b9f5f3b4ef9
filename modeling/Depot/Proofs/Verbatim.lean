import Mathlib.Data.List.TakeDrop
import Depot.Proofs.Signing

/-!
What a reader of locations leaves of the location of a request. A location is read before it is
asked for, and then paths have no segments that are dots: one dot stays where it is, two go up. So
where nothing is encoded anew, a request asks for the path and the query that its location is written
with exactly if no segment of the path is dots, and for those that were signed exactly if no level of
the key is. Of the authority nothing is said here; it is read in its own form, with the name of the
host in small letters, without a user and without the usual port.
-/

namespace Depot

namespace Text

/-- A sign in front of the letters is no letter that was made small. -/
theorem toLower_eq_iff {sign character : Char} (below : sign.toNat < 'A'.toNat) :
    character.toLower = sign ↔ character = sign := by
  unfold Char.toLower
  split
  next isCapital =>
    have first : 65 ≤ character.toNat := isCapital.1
    have last : character.toNat ≤ 90 := isCapital.2
    have moved : (character.val + ('a'.val - 'A'.val)).toNat = character.toNat + 32 := by
      rw [UInt32.toNat_add]
      exact Nat.mod_eq_of_lt (show character.toNat + 32 < 2 ^ 32 by omega)
    have below : sign.toNat < 65 := below
    rw [← Char.toNat_inj, ← Char.toNat_inj]
    change (character.val + ('a'.val - 'A'.val)).toNat = sign.toNat ↔ _
    omega
  next => rfl

theorem printable_of_isAlphanum {character : Char} (isAlphanum : character.isAlphanum = true) :
    0x20 < character.toNat ∧ character.toNat < 0x7F := by
  rcases Bool.or_eq_true_iff.mp isAlphanum with isAlpha | isDigit
  · rcases Bool.or_eq_true_iff.mp isAlpha with isUpper | isLower
    · have range : 65 ≤ character.toNat ∧ character.toNat ≤ 90 := of_decide_eq_true isUpper
      omega
    · rcases Bool.and_eq_true_iff.mp isLower with ⟨first, last⟩
      have first : 97 ≤ character.toNat := of_decide_eq_true first
      have last : character.toNat ≤ 122 := of_decide_eq_true last
      omega
  · rcases Bool.and_eq_true_iff.mp isDigit with ⟨first, last⟩
    have first : 48 ≤ character.toNat := of_decide_eq_true first
    have last : character.toNat ≤ 57 := of_decide_eq_true last
    omega

end Text

namespace Http

namespace Location

variable {segment : List Char} {before segments : List (List Char)}

/-! ## Segments of dots -/

/-- Whether a segment is one dot or two, be they encoded or not. -/
def isDotted (segment : List Char) : Bool := isDots 2 segment || isDots 1 segment

/-- Whether a character of a path stays what and where it is. -/
def staysInPath (character : Char) : Bool :=
  mayStay encodedInPath character && character != '\\'

@[simp] theorem isDotted_nil : isDotted [] = false := by
  simp [isDotted, isDots]

/-- Of all bytes only the one that is a dot is encoded as one. -/
theorem replaceAll_encodedByte {byte : UInt8} (notDot : byte ≠ 0x2E) (text : List Char) :
    ∃ rest, Text.replaceAll ['%', '2', 'e'] ['.']
      ((Percent.encodedByte byte).map Char.toLower ++ text) = '%' :: rest := by
  have highDigit : ∀ value < 16, '2' = (Percent.digit value).toLower → value = 2 := by decide
  have lowDigit : ∀ value < 16, 'e' = (Percent.digit value).toLower → value = 14 := by decide
  have bound := byte.toNat_lt
  have written : (Percent.encodedByte byte).map Char.toLower ++ text =
      '%' :: (Percent.digit (byte.toNat / 16)).toLower ::
        (Percent.digit (byte.toNat % 16)).toLower :: text := rfl
  rw [written]
  refine ⟨_, Text.replaceAll_of_no_lead ?_ _⟩
  rw [Text.dropLead?_cons_self]
  by_cases high : '2' = (Percent.digit (byte.toNat / 16)).toLower
  · by_cases low : 'e' = (Percent.digit (byte.toNat % 16)).toLower
    · have first := highDigit _ (by omega) high
      have second := lowDigit _ (by omega) low
      have isDot : byte.toNat = 0x2E := by omega
      exact absurd (UInt8.toNat_inj.mp isDot) notDot
    · rw [← high, Text.dropLead?_cons_self, Text.dropLead?_cons_of_ne low]
  · exact Text.dropLead?_cons_of_ne high _ _

/-- Where dots are kept and percent signs are not, only dots are written as dots. -/
theorem isDots_encode {keeps : Char → Bool} (keepsDot : keeps '.' = true)
    (escapes : keeps '%' = false) (count : Nat) (text : List Char) :
    isDots count (Percent.encode keeps text) = true ↔ text = List.replicate count '.' := by
  have code : "%2e".toList = ['%', '2', 'e'] := rfl
  simp only [isDots, beq_iff_eq, code]
  induction text generalizing count with
  | nil =>
      rw [Percent.encode, List.flatMap_nil, List.map_nil, Text.replaceAll_nil]
  | cons first text induction =>
      rw [Percent.encode_cons]
      split
      next kept =>
        have unread : '%' ≠ first.toLower := by
          intro same
          rw [(Text.toLower_eq_iff (by decide)).mp same.symm, escapes] at kept
          cases kept
        rw [List.singleton_append, List.map_cons,
          Text.replaceAll_of_no_lead (Text.dropLead?_cons_of_ne unread _ _)]
        cases count with
        | zero => simp
        | succ count =>
            rw [List.replicate_succ, List.cons.injEq, List.cons.injEq,
              Text.toLower_eq_iff (by decide)]
            exact and_congr_right fun _ => induction count
      next encoded =>
        -- The percent sign stays, since what follows it is not the code of a dot.
        have notDot : first ≠ '.' := by
          rintro rfl
          exact encoded keepsDot
        have noByte := Percent.not_mem_utf8EncodeChar (by decide) notDot
        rcases List.exists_cons_of_ne_nil String.utf8EncodeChar_ne_nil with ⟨byte, bytes, isCoded⟩
        rw [isCoded] at noByte ⊢
        rw [List.flatMap_cons, List.append_assoc, List.map_append]
        rcases replaceAll_encodedByte (ne_of_mem_of_not_mem List.mem_cons_self noByte) _ with
          ⟨rest, replaced⟩
        rw [replaced]
        cases count with
        | zero => simp
        | succ count => simp [List.replicate_succ, notDot]

theorem above_subset (before : List (List Char)) : above before ⊆ before := by
  cases before with
  | nil => exact List.Subset.refl _
  | cons last before =>
      rw [above]
      split
      · exact List.Subset.refl _
      · exact List.subset_cons_self _ _

theorem resolved_cons (before : List (List Char)) (segment : List Char)
    (segments : List (List Char)) : resolved before (segment :: segments) =
      if isDotted segment = true then
        resolved (if segments.isEmpty then
          [] :: (if isDots 2 segment then above before else before)
          else if isDots 2 segment then above before else before) segments
      else resolved (Percent.encode (mayStay encodedInPath) segment :: before) segments := rfl

/-- Segments that are no dots and hold nothing to be encoded are left alone. -/
theorem resolved_of_plain (noDots : ∀ segment ∈ segments, isDotted segment = false)
    (stay : ∀ segment ∈ segments, ∀ character ∈ segment,
      mayStay encodedInPath character = true) (before : List (List Char)) :
    resolved before segments = before.reverse ++ segments := by
  induction segments generalizing before with
  | nil => exact (List.append_nil _).symm
  | cons segment segments induction =>
      rw [List.forall_mem_cons] at noDots stay
      rw [resolved_cons, noDots.1, if_neg Bool.false_ne_true, Percent.encode_eq_self stay.1,
        induction noDots.2 stay.2, List.reverse_cons, List.append_assoc, List.singleton_append]

/-- What holds of the segments before, of the empty one and of those that are no dots holds of all
that are left. -/
theorem forall_mem_resolved (Holds : List Char → Prop) (nothing : Holds [])
    (kept : ∀ segment ∈ segments, isDotted segment = false →
      Holds (Percent.encode (mayStay encodedInPath) segment))
    (early : ∀ segment ∈ before, Holds segment) :
    ∀ segment ∈ resolved before segments, Holds segment := by
  induction segments generalizing before with
  | nil => exact fun segment member => early segment (List.mem_reverse.mp member)
  | cons first segments induction =>
      rw [List.forall_mem_cons] at kept
      have above : ∀ segment ∈ (if isDots 2 first then above before else before),
          Holds segment := by
        split
        · exact fun segment member => early segment (above_subset before member)
        · exact early
      rw [resolved_cons]
      split
      next =>
        apply induction kept.2
        split
        · exact List.forall_mem_cons.mpr ⟨nothing, above⟩
        · exact above
      next noDots =>
        exact induction kept.2 (List.forall_mem_cons.mpr
          ⟨kept.1 (Bool.eq_false_of_not_eq_true noDots), early⟩)

theorem endsPath_of_stays {character : Char} (stays : staysInPath character = true) :
    endsPath character = false := by
  rw [endsPath, Bool.or_eq_false_iff, beq_eq_false_iff_ne, beq_eq_false_iff_ne]
  constructor
  · rintro rfl
    cases stays
  · rintro rfl
    cases stays

theorem segments_eq_pieces (kind : SchemeKind) {path : List Char} (noBackslash : '\\' ∉ path) :
    Location.segments kind path = Text.pieces '/' path := by
  rw [Location.segments]
  congr 1
  refine (List.map_congr_left fun character member => ?_).trans (List.map_id path)
  have different : character ≠ '\\' := ne_of_mem_of_not_mem member noBackslash
  rw [isSlash]
  by_cases here : character = '/'
  · simp [here]
  · simp [here, different]

/-- A path is left alone exactly if it has no segment of dots. -/
theorem writtenPath_eq_self_iff {path : List Char}
    (stay : ∀ character ∈ path, staysInPath character = true) :
    writtenPath .web ('/' :: path) = '/' :: path ↔
      ∀ segment ∈ Text.pieces '/' path, isDotted segment = false := by
  simp only [staysInPath, Bool.and_eq_true, bne_iff_ne] at stay
  have noBackslash : '\\' ∉ path := fun member => (stay _ member).2 rfl
  have isPath : writtenPath .web ('/' :: path) =
      '/' :: Text.join ['/'] (resolved [] (Text.pieces '/' path)) := by
    rw [← segments_eq_pieces .web noBackslash]
    rfl
  have stayHere : ∀ segment ∈ Text.pieces '/' path, ∀ character ∈ segment,
      mayStay encodedInPath character = true := fun segment isPiece character member =>
    (stay character (Text.mem_of_mem_pieces isPiece member)).1
  rw [isPath, List.cons.injEq, eq_self, true_and]
  constructor
  · intro same
    -- Nothing that is left is dots, and a path that is left alone has the segments that are left.
    have left : ∀ segment ∈ resolved [] (Text.pieces '/' path),
        isDotted segment = false ∧ '/' ∉ segment := by
      apply forall_mem_resolved fun segment => isDotted segment = false ∧ '/' ∉ segment
      · exact ⟨isDotted_nil, List.not_mem_nil⟩
      · intro segment isPiece noDots
        rw [Percent.encode_eq_self (stayHere segment isPiece)]
        exact ⟨noDots, Text.not_mem_of_mem_pieces isPiece⟩
      · exact nofun
    by_cases nothing : resolved [] (Text.pieces '/' path) = []
    · rw [nothing] at same
      cases same
      exact List.forall_mem_singleton.mpr isDotted_nil
    · have again := Text.pieces_join (fun segment member => (left segment member).2) nothing
      rw [same] at again
      rw [again]
      exact fun segment member => (left segment member).1
  · intro noDots
    rw [resolved_of_plain noDots stayHere, List.reverse_nil, List.nil_append, Text.join_pieces]

/-! ## Reading -/

/-- A query that holds nothing to be encoded, without a fragment, is left alone. -/
theorem writtenTail_of_plain {tail : List Char}
    (stay : ∀ character ∈ tail, mayStay "\"<>'" character = true ∧ character ≠ '#') :
    writtenTail .web tail = tail := by
  have whole : tail.takeWhile (· != '#') = tail := by
    rw [List.takeWhile_eq_self_iff]
    exact fun character member => bne_iff_ne.mpr (stay character member).2
  have nothing : tail.dropWhile (· != '#') = [] := by
    rw [Text.dropWhile_ne_eq_nil_iff]
    exact fun member => (stay _ member).2 rfl
  have kept := Percent.encode_eq_self fun character member => (stay character member).1
  rw [writtenTail, whole, nothing]
  simpa [Percent.encode] using kept

theorem writtenRest_eq (kind : SchemeKind) (written : List Char → List Char) (text : List Char) :
    writtenRest kind written text =
      String.ofList (written (text.takeWhile fun character => !endsPath character) ++
        writtenTail kind (text.dropWhile fun character => !endsPath character)) := by
  let goesOn := fun character => !endsPath character
  have behind : (text.takeWhile goesOn ++ text.dropWhile goesOn).drop
      (text.takeWhile goesOn).length = text.dropWhile goesOn := List.drop_left
  rw [List.takeWhile_append_dropWhile] at behind
  rw [writtenRest, behind]

theorem cleaned_of_plain {text : String}
    (plain : ∀ character ∈ text.toList, 0x20 < character.toNat) : cleaned text = text.toList := by
  have stays {list : List Char} (plain : ∀ character ∈ list, 0x20 < character.toNat) :
      list.dropWhile (fun character => decide (character.toNat ≤ 0x20)) = list := by
    rw [List.dropWhile_eq_self_iff]
    intro positive
    simpa using plain _ (List.getElem_mem positive)
  have backwards : ∀ character ∈ text.toList.reverse, 0x20 < character.toNat :=
    fun character member => plain character (List.mem_reverse.mp member)
  simp only [cleaned]
  rw [stays plain, stays backwards, List.reverse_reverse, List.filter_eq_self]
  intro character member
  have high := plain character member
  have different (sign : Char) (low : sign.toNat ≤ 0x20) : character ≠ sign := by
    rintro rfl
    omega
  simp [different '\t', different '\n', different '\r']

theorem cutUser_suffix (authority : List Char) : (cutUser authority).2 <:+ authority := by
  have host : (authority.reverse.takeWhile (· != '@')).reverse <:+ authority := by
    simpa using List.reverse_suffix.mpr (List.takeWhile_prefix (l := authority.reverse) (· != '@'))
  rw [cutUser]
  split
  · exact List.suffix_refl _
  · exact host

theorem cutHost_suffix (passed : List Char) (inBrackets : Bool) (text : List Char) :
    (cutHost passed inBrackets text).2 <:+ text := by
  induction text generalizing passed inBrackets with
  | nil => exact List.suffix_refl _
  | cons first text induction =>
      rw [cutHost]
      split
      · exact List.suffix_refl _
      · exact (induction _ _).trans (List.suffix_cons _ _)

/-- All of a port is read, but for what follows a backslash. -/
theorem rest_of_readPort {scheme : String} {text rest : List Char} {port : Option Nat}
    (noBackslash : '\\' ∉ text) (isPort : readPort scheme text = .ok (port, rest)) : rest = [] := by
  rw [readPort] at isPort
  split at isPort
  next ends =>
    cases isPort
    rcases ends.1 with nothing | backslash
    · exact nothing
    · have member := List.mem_of_mem_head? backslash
      exact absurd ((List.dropWhile_suffix _).subset member) noBackslash
  next => cases isPort

/-- Behind an authority on the web everything is path, query and fragment. -/
theorem path_of_ofAuthority {scheme : String} {authority behind : List Char} {location : Location}
    (noBackslash : '\\' ∉ authority)
    (isRead : ofAuthority scheme .web authority behind = .ok location) :
    location.path = writtenRest .web (writtenPath .web) behind := by
  simp only [ofAuthority, reduceCtorEq, false_and, if_false] at isRead
  split at isRead
  · cases isRead
  · split at isRead
    · cases isRead
    next host _ =>
      rcases bind_eq_ok_iff.mp isRead with ⟨⟨port, rest⟩, isPort, same⟩
      cases same
      have noBackslashHere : '\\' ∉ List.drop 1 (cutHost [] false (cutUser authority).2).2 := by
        intro member
        have inRest := (List.drop_suffix _ _).subset member
        exact noBackslash ((cutUser_suffix _).subset ((cutHost_suffix _ _ _).subset inRest))
      rw [rest_of_readPort noBackslashHere isPort]
      rfl

end Location

end Http

namespace S3

open Http (Location)

/-- A location on the web is read from its authority on. -/
theorem Endpoint.read_eq (endpoint : Endpoint) {url : String} {behind : List Char}
    (isLocation : url.toList = endpoint.scheme.toList ++
      ("://".toList ++ (endpoint.authority.toList ++ behind)))
    (isRooted : behind.head? = some '/') (noBackslash : '\\' ∉ endpoint.authority.toList)
    (visible : ∀ character ∈ url.toList, 0x20 < character.toNat) :
    Location.read url =
      Location.ofAuthority endpoint.scheme .web endpoint.authority.toList behind := by
  have isWeb : Http.SchemeKind.ofName endpoint.scheme = .web := by
    rw [scheme]
    cases endpoint.isSecure <;> decide
  have cut : Location.cutScheme? (Location.cleaned url) =
      some (endpoint.scheme, '/' :: '/' :: (endpoint.authority.toList ++ behind)) := by
    have atColon : Text.cutAt? ':' (Location.cleaned url) =
        some (endpoint.scheme.toList, '/' :: '/' :: (endpoint.authority.toList ++ behind)) := by
      rw [Location.cleaned_of_plain visible, isLocation]
      exact Text.cutAt?_append endpoint.colon_not_mem_scheme _
    rw [Location.cutScheme?, atColon, scheme]
    cases endpoint.isSecure <;> rfl
  have goesOn : ∀ character ∈ endpoint.authority.toList,
      (!Location.isSlash .web character && !Location.endsPath character) = true := by
    intro character member
    have different : character ≠ '\\' := ne_of_mem_of_not_mem member noBackslash
    have goesOn := endpoint.goesOnAuthority character member
    simpa [Location.isSlash, Target.goesOnAuthority, Target.goesOnPath, different] using goesOn
  have slashes : ('/' :: '/' :: (endpoint.authority.toList ++ behind)).dropWhile
      (Location.isSlash .web) = endpoint.authority.toList ++ behind := by
    have filled : endpoint.authority.toList ≠ [] := by simpa using endpoint.filled
    rcases List.exists_cons_of_ne_nil filled with ⟨first, others, whole⟩
    have notSlash : Location.isSlash .web first = false := by
      have goesOnFirst := goesOn first (whole ▸ List.mem_cons_self)
      rw [Bool.and_eq_true, Bool.not_eq_true'] at goesOnFirst
      exact goesOnFirst.1
    rw [List.dropWhile_cons_of_pos rfl, List.dropWhile_cons_of_pos rfl, whole, List.cons_append,
      List.dropWhile_cons_of_neg (by simp [notSlash])]
  rcases List.head?_eq_some_iff.mp isRooted with ⟨others, rfl⟩
  have ends : (!Location.isSlash .web '/' && !Location.endsPath '/') = false := rfl
  simp only [Location.read, cut, isWeb, ne_eq, not_true_eq_false, false_and, if_false, if_true,
    reduceCtorEq, slashes, List.span_eq_takeWhile_dropWhile]
  rw [List.takeWhile_append_of_pos goesOn, List.dropWhile_append_of_pos goesOn,
    List.takeWhile_cons_of_neg (by simp [ends]), List.dropWhile_cons_of_neg (by simp [ends]),
    List.append_nil]

/-! ## Requests -/

/-- A character that is never encoded stays in a location, wherever it is. -/
theorem mayStay_of_isUnreserved {forbidden : String} {character : Char}
    (allowed : (forbidden.toList.any isUnreserved) = false)
    (unreserved : isUnreserved character = true) :
    Location.mayStay forbidden character = true := by
  have notForbidden : character ∉ forbidden.toList := by
    intro member
    rw [List.any_eq_true.mpr ⟨character, member, unreserved⟩] at allowed
    cases allowed
  have printable : 0x20 < character.toNat ∧ character.toNat < 0x7F := by
    simp only [isUnreserved, Bool.or_eq_true, beq_iff_eq] at unreserved
    rcases unreserved with (((isAlphanum | rfl) | rfl) | rfl) | rfl
    · exact Text.printable_of_isAlphanum isAlphanum
    all_goals decide
  simp [Location.mayStay, notForbidden, printable]

theorem staysInPath_of_isUnreserved {character : Char}
    (unreserved : isUnreserved character = true) : Location.staysInPath character = true := by
  have different : character ≠ '\\' := by
    rintro rfl
    cases unreserved
  rw [Location.staysInPath, mayStay_of_isUnreserved (by decide) unreserved, Bool.true_and,
    bne_iff_ne]
  exact different

/-- What follows the path of a request: its query, if it has one. -/
def Command.tail (command : Command) : List Char :=
  if canonicalQuery command.query = "" then [] else '?' :: (canonicalQuery command.query).toList

theorem Command.stays_tail (command : Command) : ∀ character ∈ command.tail,
    Location.mayStay "\"<>'" character = true ∧ character ≠ '#' := by
  intro character member
  rw [Command.tail] at member
  split at member
  · cases member
  · rcases List.mem_cons.mp member with rfl | inQuery
    · decide
    · rcases mem_canonicalQuery inQuery with unreserved | rfl | rfl | rfl
      · refine ⟨mayStay_of_isUnreserved (by decide) unreserved, ?_⟩
        rintro rfl
        cases unreserved
      all_goals decide

theorem Command.ofList_tail (command : Command) : String.ofList command.tail =
    if canonicalQuery command.query = "" then "" else "?" ++ canonicalQuery command.query := by
  rw [Command.tail]
  split
  · rfl
  · simp

namespace Client

open Target

variable {client : Client} {endpoint : Endpoint} {command : Command}

theorem staysInPath_path (plainBucket : ∀ character ∈ client.bucket.toList,
      Location.staysInPath character = true) (key : Option String) :
    ∀ character ∈ (client.path key).toList, Location.staysInPath character = true := by
  have slash : Location.staysInPath '/' = true := by decide
  have percent : Location.staysInPath '%' = true := by decide
  intro character member
  cases key with
  | none =>
      rw [path, String.toList_append, List.mem_append] at member
      rcases member with isSlash | inBucket
      · cases List.mem_singleton.mp isSlash
        exact slash
      · exact plainBucket character inBucket
  | some key =>
      simp only [path, String.toList_append, List.mem_append] at member
      rcases member with ((isSlash | inBucket) | isSlash) | inKey
      · cases List.mem_singleton.mp isSlash
        exact slash
      · exact plainBucket character inBucket
      · cases List.mem_singleton.mp isSlash
        exact slash
      · rcases mem_encodeKey inKey with unreserved | rfl | rfl
        · exact staysInPath_of_isUnreserved unreserved
        · exact percent
        · exact slash

theorem behindAuthority_eq (client : Client) (endpoint : Endpoint) (command : Command) :
    client.behindAuthority endpoint command =
      endpoint.front ++ (client.path command.key).toList ++ command.tail :=
  (List.append_assoc _ _ _).symm

/-- A client and the endpoint that it stands at, where nothing in the authority, in the path and in
the bucket is encoded or left out when the location of a request is read. -/
structure IsPlain (client : Client) (endpoint : Endpoint) : Prop where
  place : client.place = endpoint.text
  host : ∀ character ∈ endpoint.authority.toList, 0x20 < character.toNat ∧ character ≠ '\\'
  front : ∀ character ∈ endpoint.front, Location.staysInPath character = true
  bucket : ∀ character ∈ client.bucket.toList, Location.staysInPath character = true

namespace IsPlain

variable (plain : client.IsPlain endpoint)

include plain

/-- The path of a request, with the path of the endpoint in front. -/
theorem staysInPath (key : Option String) :
    ∀ character ∈ endpoint.front ++ (client.path key).toList, Location.staysInPath character = true :=
  List.forall_mem_append.mpr ⟨plain.front, staysInPath_path plain.bucket key⟩

theorem goesOnPath (key : Option String) :
    ∀ character ∈ endpoint.front ++ (client.path key).toList,
      (!Location.endsPath character) = true := by
  intro character member
  rw [Location.endsPath_of_stays (plain.staysInPath key character member), Bool.not_false]

theorem visible : ∀ character ∈ (client.url command).toList, 0x20 < character.toNat := by
  have ofStays {forbidden : String} {character : Char}
      (stays : Location.mayStay forbidden character = true) : 0x20 < character.toNat := by
    simp only [Location.mayStay, Bool.and_eq_true, decide_eq_true_eq] at stays
    exact stays.1.1
  have inScheme : ∀ character ∈ endpoint.scheme.toList ++ "://".toList,
      0x20 < character.toNat := by
    have all : ((endpoint.scheme.toList ++ "://".toList).all fun character =>
        decide (0x20 < character.toNat)) = true := by
      rw [Endpoint.scheme]
      cases endpoint.isSecure <;> rfl
    exact fun character member => of_decide_eq_true (List.all_eq_true.mp all character member)
  have inPath : ∀ character ∈ endpoint.front ++ (client.path command.key).toList,
      0x20 < character.toNat := by
    intro character member
    have stays := plain.staysInPath command.key character member
    rw [Location.staysInPath, Bool.and_eq_true] at stays
    exact ofStays stays.1
  have inTail : ∀ character ∈ command.tail, 0x20 < character.toNat :=
    fun character member => ofStays (command.stays_tail character member).1
  rw [toList_url plain.place, behindAuthority_eq, ← List.append_assoc]
  exact List.forall_mem_append.mpr ⟨inScheme, List.forall_mem_append.mpr
    ⟨fun character member => (plain.host character member).1,
      List.forall_mem_append.mpr ⟨inPath, inTail⟩⟩⟩

/-- A location that can be read keeps what stands behind its authority, but for what the reader
makes of the path. -/
theorem path_of_read {location : Location}
    (isRead : Location.read (client.url command) = .ok location) :
    location.path = String.ofList (Location.writtenPath .web
      (endpoint.front ++ (client.path command.key).toList) ++ command.tail) := by
  have noBackslash : '\\' ∉ endpoint.authority.toList := fun member =>
    (plain.host _ member).2 rfl
  have ends : command.tail.takeWhile (fun character => !Location.endsPath character) = [] ∧
      command.tail.dropWhile (fun character => !Location.endsPath character) = command.tail := by
    rw [Command.tail]
    split
    · exact ⟨rfl, rfl⟩
    · exact ⟨rfl, rfl⟩
  rw [endpoint.read_eq (toList_url plain.place command) (head?_behindAuthority command) noBackslash
    plain.visible] at isRead
  rw [Location.path_of_ofAuthority noBackslash isRead, Location.writtenRest_eq, behindAuthority_eq,
    List.takeWhile_append_of_pos (plain.goesOnPath command.key),
    List.dropWhile_append_of_pos (plain.goesOnPath command.key), ends.1, ends.2, List.append_nil,
    Location.writtenTail_of_plain command.stays_tail]

/-- The path of a request is left alone exactly if it has no segment of dots. -/
theorem path_of_read_eq_iff {location : Location}
    (isRead : Location.read (client.url command) = .ok location) :
    location.path =
        String.ofList (endpoint.front ++ (client.path command.key).toList ++ command.tail) ↔
      ∀ segment ∈ Text.pieces '/' (endpoint.front ++ (client.path command.key).toList),
        Location.isDotted segment = false := by
  have stay := plain.staysInPath command.key
  rw [plain.path_of_read isRead, ← String.toList_inj, String.toList_ofList, String.toList_ofList,
    List.append_left_inj]
  rcases List.head?_eq_some_iff.mp (head?_front_append_path client endpoint command.key) with
    ⟨rest, whole⟩
  rw [whole] at stay ⊢
  rw [Location.writtenPath_eq_self_iff (List.forall_mem_cons.mp stay).2, Text.pieces_cons,
    if_pos rfl, List.forall_mem_cons, and_iff_right Location.isDotted_nil]

end IsPlain

/-- A request asks for the path and the query of its location as it is written exactly if no segment
of the path is one dot or two, be they encoded or not. -/
theorem asks_as_written_iff (plain : client.IsPlain endpoint) {sent : Target} {location : Location}
    (isSent : Target.ofUrl? (client.url command) = some sent)
    (isRead : Location.read (client.url command) = .ok location) :
    location.path = sent.path ++ (if sent.query = "" then "" else "?" ++ sent.query) ↔
      ∀ segment ∈ Text.pieces '/' sent.path.toList, Location.isDotted segment = false := by
  have noEnd : '?' ∉ client.bucket.toList ∧ '#' ∉ client.bucket.toList := by
    rw [← goesOnPath_iff]
    intro character member
    rw [goesOnPath, Location.endsPath_of_stays (plain.bucket character member), Bool.not_false]
  have written := behindAuthority_of_plain endpoint command noEnd
  rw [ofUrl?_url plain.place command, written.1, written.2, String.ofList_toList] at isSent
  cases isSent
  dsimp only
  rw [← command.ofList_tail, ← String.ofList_append, String.toList_ofList]
  exact plain.path_of_read_eq_iff isRead

/-- The levels of a path are the bucket and the levels of the key, each as it is written. -/
theorem pieces_path (noSlash : '/' ∉ client.bucket.toList) (key : String) :
    Text.pieces '/' (client.path (some key)).toList = [] :: client.bucket.toList ::
      (Text.pieces '/' key.toList).map (Http.Percent.encode isUnreserved) := by
  rcases List.exists_cons_of_ne_nil (Text.pieces_ne_nil '/' key.toList) with ⟨level, levels, cut⟩
  have isPath : (client.path (some key)).toList = Text.join ['/'] ([] :: client.bucket.toList ::
      (Text.pieces '/' key.toList).map (Http.Percent.encode isUnreserved)) := by
    rw [cut, List.map_cons, Text.join_cons_cons, Text.join_cons_cons, ← List.map_cons, ← cut]
    simp [path, encodeKey, String.toList_append]
  have plain : ∀ text ∈ [] :: client.bucket.toList ::
      (Text.pieces '/' key.toList).map (Http.Percent.encode isUnreserved), '/' ∉ text := by
    simp only [List.forall_mem_cons, List.forall_mem_map]
    refine ⟨List.not_mem_nil, noSlash, fun level _ => ?_⟩
    have absent : '/' ∉ (encodeText (String.ofList level)).toList :=
      not_mem_encodeText (by decide) (by decide) _
    rwa [encodeText, String.toList_ofList, String.toList_ofList] at absent
  rw [isPath, Text.pieces_join plain (List.cons_ne_nil _ _)]

/-- Where the endpoint has no path, a request asks for the path and the query that were signed
exactly if no level of the key is one dot or two. -/
theorem asks_for_signed_iff (plain : client.IsPlain endpoint) (noFront : endpoint.front = [])
    (noSlash : '/' ∉ client.bucket.toList)
    (bucketNoDots : Location.isDotted client.bucket.toList = false) {key : String}
    (isKey : command.key = some key) {location : Location}
    (isRead : Location.read (client.url command) = .ok location) :
    location.path = client.path (some key) ++ (if canonicalQuery command.query = "" then "" else
        "?" ++ canonicalQuery command.query) ↔
      ∀ level ∈ Text.pieces '/' key.toList, level ≠ ['.'] ∧ level ≠ ['.', '.'] := by
  have read := plain.path_of_read_eq_iff isRead
  rw [noFront, List.nil_append, isKey, pieces_path noSlash, List.forall_mem_cons,
    List.forall_mem_cons, List.forall_mem_map, and_iff_right Location.isDotted_nil,
    and_iff_right bucketNoDots, String.ofList_append, String.ofList_toList,
    command.ofList_tail] at read
  rw [read]
  refine forall₂_congr fun level _ => ?_
  rw [Location.isDotted, Bool.or_eq_false_iff, ← Bool.not_eq_true, ← Bool.not_eq_true,
    Location.isDots_encode (by decide) (by decide), Location.isDots_encode (by decide) (by decide)]
  exact and_comm

private def wharf : Client := ⟨"bucket", "us-east-1", some "https://wharf", "AK", "SK", none⟩

example : (Location.read (wharf.url (plain .get "a/../k"))).toOption.map Location.path =
    some "/bucket/k" := by decide +kernel

end Client

end S3

end Depot
