import Depot.Http.Host

/-!
Locations, as browsers read and show them. Spaces and controls around a location do not count, nor
do tabs and line ends in it. In the schemes of the web any number of slashes leads to the host, and
a backslash is a slash. A path never goes up from a drive, which is a letter with a colon or a bar.
-/

namespace Depot.Http

inductive SchemeKind where
  | web
  | file
  | other
  deriving DecidableEq, Repr

def SchemeKind.ofName (name : String) : SchemeKind :=
  if ["http", "https", "ws", "wss", "ftp"].contains name then .web
  else if name = "file" then .file
  else .other

/-- Where a path is to be looked up: what stands between two slashes and the path. -/
structure Authority where
  /-- The name and the password of a user, if a request cannot name them in a header. -/
  user : Option String
  host : Option Host
  /-- The port, unless it is the one that the scheme has anyway. -/
  port : Option Nat
  deriving DecidableEq, Repr

/-- The authority of what is on no other machine. -/
def Authority.here : Authority := ⟨none, none, none⟩

structure Location where
  scheme : String
  authority : Option Authority
  /-- The path with the query and the fragment. -/
  path : String
  deriving DecidableEq, Repr

inductive LocationFault where
  | noScheme
  | malformed
  deriving DecidableEq, Repr

namespace Location

/-! ## Parts of the text -/

/-- The text without what does not count in it. -/
def cleaned (text : String) : List Char :=
  let surrounds := fun (character : Char) => character.toNat ≤ 0x20
  let inside := (text.toList.dropWhile surrounds).reverse.dropWhile surrounds
  inside.reverse.filter fun character =>
    character != '\t' && character != '\n' && character != '\r'

/-- The scheme in front of the first colon, in small letters, and what follows the colon. -/
def cutScheme? (text : List Char) : Option (String × List Char) := do
  let (scheme, rest) ← Text.cutAt? ':' text
  let isSchemeCharacter := fun (character : Char) =>
    character.isAlphanum || character == '+' || character == '-' || character == '.'
  if scheme.head?.any Char.isAlpha && scheme.all isSchemeCharacter then
    return (Text.lower (String.ofList scheme), rest)
  else none

def isSlash (kind : SchemeKind) (character : Char) : Bool :=
  character == '/' || (character == '\\' && kind != .other)

def endsPath (character : Char) : Bool := character == '?' || character == '#'

/-- What stands before the last `@` of an authority, if it has one, and what stands behind it. -/
def cutUser (authority : List Char) : Option (List Char) × List Char :=
  let host := (authority.reverse.takeWhile (· != '@')).reverse
  if host.length = authority.length then (none, authority)
  else (some (authority.take (authority.length - host.length - 1)), host)

/-- The host and what follows it from the first colon on; `passed` is what has been read of it, with
the last character first. Colons between brackets are part of the host. -/
def cutHost (passed : List Char) (inBrackets : Bool) : List Char → List Char × List Char
  | [] => (passed.reverse, [])
  | first :: text =>
      if first = ':' ∧ !inBrackets then (passed.reverse, first :: text)
      else
        let inBrackets := if first = '[' then true else if first = ']' then false else inBrackets
        cutHost (first :: passed) inBrackets text

/-- The port that a scheme has if none is written. -/
def usualPort? (scheme : String) : Option Nat :=
  [("http", 80), ("ws", 80), ("https", 443), ("wss", 443), ("ftp", 21)].lookup scheme

/-! ## Paths, queries and fragments -/

/-- Whether a character may stay as it is where those given may not. -/
def mayStay (forbidden : String) (character : Char) : Bool :=
  0x20 < character.toNat && character.toNat < 0x7F && !forbidden.toList.contains character

/-- Whether a segment is a number of dots, each of which may be encoded. -/
def isDots (count : Nat) (segment : List Char) : Bool :=
  let dots := Text.replaceAll "%2e".toList ['.'] (segment.map Char.toLower)
  dots == List.replicate count '.'

/-- Whether a segment is the name of a drive, or would be if a backslash were a slash. -/
def isDrive : List Char → Bool
  | letter :: mark :: rest =>
      letter.isAlpha && (mark == ':' || mark == '|') && (rest.isEmpty || rest.head? == some '\\')
  | _ => false

/-- The segments above some segments, of which the last one is first. There is nothing above a
drive. -/
def above : List (List Char) → List (List Char)
  | [] => []
  | last :: before => if isDrive last then last :: before else before

def encodedInPath : String := "\"<>`#?\x7b\x7d"

/-- Add segments to those before, of which the last one is first. One dot stays and two dots go up;
at the end of a path they leave an empty segment. -/
def resolved : (before : List (List Char)) → List (List Char) → List (List Char)
  | before, [] => before.reverse
  | before, segment :: rest =>
      let goesUp := isDots 2 segment
      if goesUp || isDots 1 segment then
        let before := if goesUp then above before else before
        resolved (if rest.isEmpty then [] :: before else before) rest
      else resolved (Percent.encode (mayStay encodedInPath) segment :: before) rest

def segments (kind : SchemeKind) (path : List Char) : List (List Char) :=
  Text.pieces '/' (path.map fun character => if isSlash kind character then '/' else character)

/-- A path without the slash in front. -/
def withoutSlash (kind : SchemeKind) (path : List Char) : List Char :=
  if path.head?.any (isSlash kind) then path.drop 1 else path

/-- A path behind an authority. On the web there is always one. -/
def writtenPath (kind : SchemeKind) (path : List Char) : List Char :=
  if path.isEmpty then (if kind = .other then [] else ['/'])
  else '/' :: Text.join ['/'] (resolved [] (segments kind (withoutSlash kind path)))

/-- A path on a local disk. A drive at its beginning is written with a colon, and any number of
slashes at the beginning counts as one. -/
def localPath (path : List Char) : List Char :=
  let segments := match segments .file path with
    | first :: rest => (if isDrive first then first.take 1 ++ [':'] else first) :: rest
    | [] => []
  '/' :: (Text.join ['/'] (resolved [] segments)).dropWhile (· == '/')

/-- A query and a fragment, either of which may be missing. -/
def writtenTail (kind : SchemeKind) (text : List Char) : List Char :=
  let query := text.takeWhile (· != '#')
  let fragment := text.dropWhile (· != '#')
  let forbidden := if kind = .other then "\"<>" else "\"<>'"
  Percent.encode (mayStay forbidden) query ++ fragment.take 1 ++
    Percent.encode (mayStay "\"<>`") (fragment.drop 1)

/-- What follows an authority, with the path as `written` writes it. -/
def writtenRest (kind : SchemeKind) (written : List Char → List Char) (text : List Char) : String :=
  let path := text.takeWhile fun character => !endsPath character
  String.ofList (written path ++ writtenTail kind (text.drop path.length))

/-! ## Reading -/

/-- Whether what is encoded in a text is text, too. -/
def isReadable (text : List Char) : Bool :=
  (String.fromUTF8? ⟨(Percent.decode (String.ofList text).toUTF8.toList).toArray⟩).isSome

/-- The user that a location goes on to show. A request names a user in a header, for which the name
must be readable; without a name the password must be. -/
def shownUser? (user : List Char) : Option String :=
  let name := user.takeWhile (· != ':')
  let password := user.drop (name.length + 1)
  if isReadable name && (!name.isEmpty || isReadable password) then none
  else
    let encoded := Percent.encode (mayStay (encodedInPath ++ "/:;=@[\\]^|"))
    let separator := if password.isEmpty then [] else [':']
    some (String.ofList (encoded name ++ separator ++ encoded password))

/-- The port behind a colon; without digits there is none. Digits may end at a backslash, and the
backslash and what follows it are handed back. -/
def readPort (scheme : String) (text : List Char) :
    Except LocationFault (Option Nat × List Char) :=
  let digits := text.takeWhile Char.isDigit
  let rest := text.dropWhile Char.isDigit
  let port := Numeral.valueOf 10 digits
  if (rest = [] ∨ rest.head? = some '\\') ∧ port ≤ 65535 then
    .ok (if digits.isEmpty ∨ usualPort? scheme = some port then none else some port, rest)
  else .error .malformed

/-- Read an authority and what follows it. Where a host may be missing there must be neither a user
nor a port. -/
def ofAuthority (scheme : String) (kind : SchemeKind) (authority behind : List Char) :
    Except LocationFault Location := do
  let (user, rest) := cutUser authority
  let (host, rest) := cutHost [] false rest
  let written := writtenRest kind (writtenPath kind)
  if host.isEmpty then
    let isBare := rest.isEmpty && (user.getD []).all (· == ':') && (user.getD []).length ≤ 1 &&
      (user != some [] || behind.isEmpty)
    if kind = .other ∧ isBare then return ⟨scheme, some .here, written behind⟩
    throw .malformed
  match if kind = .other then Host.ofOpaque? host else Host.ofText? host with
  | none => throw .malformed
  | some host =>
      let (port, rest) ← readPort scheme (rest.drop 1)
      return ⟨scheme, some ⟨user.bind shownUser?, some host, port⟩, written (rest ++ behind)⟩

/-- What is on a disk of a host, or of this machine. -/
def onDisk (host : Option Host) (path : List Char) : Location :=
  ⟨"file", some { Authority.here with host }, writtenRest .file localPath path⟩

/-- Read what follows the two slashes of a local file. A drive is no host, and neither is the
machine itself; a host with a drive behind it does not count. -/
def ofFile (text : List Char) : Except LocationFault Location :=
  let segment := List.takeWhile fun character => !isSlash .file character && !endsPath character
  let name := segment text
  let path := text.drop name.length
  if name.isEmpty || isDrive name then .ok (onDisk none text)
  else
    match Host.ofText? name with
    | none => .error .malformed
    | some (.name "localhost") => .ok (onDisk none path)
    | some host =>
        let path := withoutSlash .file path
        .ok (onDisk (if isDrive (segment path) then none else some host) path)

def withoutAuthority (scheme : String) (kind : SchemeKind) (text : List Char) : Location :=
  let keeps := fun character => character == ' ' || mayStay "" character
  let written := if text.head? = some '/' then writtenPath kind else Percent.encode keeps
  ⟨scheme, none, writtenRest kind written text⟩

def read (text : String) : Except LocationFault Location :=
  match cutScheme? (cleaned text) with
  | none => .error .noScheme
  | some (scheme, rest) =>
      let kind := SchemeKind.ofName scheme
      if kind ≠ .web ∧ (rest.takeWhile (isSlash kind)).length < 2 then
        .ok (if kind = .file then onDisk none rest else withoutAuthority scheme kind rest)
      else if kind = .file then ofFile (rest.drop 2)
      else
        let rest := if kind = .web then rest.dropWhile (isSlash kind) else rest.drop 2
        let (authority, behind) := rest.span fun character =>
          !isSlash kind character && !endsPath character
        ofAuthority scheme kind authority behind

/-! ## Text -/

def authorityText (authority : Authority) : String :=
  authority.user.elim "" (· ++ "@") ++ authority.host.elim "" Host.text ++
    authority.port.elim "" fun port => ":" ++ toString port

/-- A location as it is shown. A dot keeps two slashes of a path from looking like the beginning of
an authority. -/
def text (location : Location) : String :=
  let lead := match location.authority with
    | some authority => "//" ++ authorityText authority
    | none => if Text.startsWith "//".toList location.path.toList then "/." else ""
  location.scheme ++ ":" ++ lead ++ location.path

example : (read "HTTP://u:p@Host:80\\a\\../b c?d#e f").toOption.map text =
    some "http://host/b%20c?d#e%20f" := by decide +kernel
example : (read "file://host/C|/../a").toOption.map text = some "file:///C:/a" := by decide +kernel
example : (read "some:/a/..//b").toOption.map text = some "some:/.//b" := by decide +kernel
example : (read "ftp://%ff:@host/").toOption.map text = some "ftp://%ff@host/" := by decide +kernel

/-! ## Uses -/

/-- The host of a location, if it has one. -/
def host? (location : Location) : Option Host := location.authority.bind Authority.host

def hasHost (text : String) : Bool :=
  match read text with
  | .ok location => location.host?.isSome
  | .error _ => false

/-- Whether a proxy can be at a location. One without a scheme or a host is tried once more as an
address on the web. -/
def canBeProxy (text : String) : Bool :=
  match read text with
  | .error .malformed => false
  | .error .noScheme => hasHost ("http://" ++ text)
  | .ok location => location.host?.isSome || hasHost ("http://" ++ text)

example : canBeProxy "http://[::1]:80" ∧ !canBeProxy "http://h:1:80" := by decide +kernel

/-- Whether a request for a location can be written: the location is on the web and not too long,
and its host holds none of the few signs that a request cannot name. -/
def canBeRequested (location : Location) : Bool :=
  ["http", "https"].contains location.scheme && location.text.utf8ByteSize ≤ 65534 &&
    location.host?.any fun host =>
      host.text.toList.all fun character => !"\"`\x7b\x7d".toList.contains character

/-- Why a request for a location is not answered if no connection comes about. Only a request that
can be written, with all its headers, gets as far as that. -/
def refusal (text : String) (canSendHeaders : Bool) : String :=
  match read text with
  | .error _ => "builder error"
  | .ok location =>
      if location.host?.isSome && !canSendHeaders then "builder error"
      else if location.canBeRequested then
        s!"error sending request for url ({location.text})"
      else s!"builder error for url ({location.text})"

end Location

end Depot.Http
