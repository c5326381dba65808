import TableStore.Url.Basic

/-!
# Reading URLs

A text is read as an absolute URL after blanks at its ends, and tabs and line ends
everywhere, are dropped. The scheme decides the rest. Under the special schemes a backslash
is a slash, a host is required, the usual port is left out and a path is never empty;
files have a path and perhaps a host; every other scheme has an authority only after two
slashes, and a path without structure if no slash follows it at all. Under every scheme
the way back in a path stops at a segment that looks like a drive.

These are the rules of the URL Standard for a URL without a base, which the library `url`
documents for its parser. What is tolerated there with a warning is accepted without one.
-/

namespace TableStore.Url

open Decimal

/-- How the rest of a URL is read. -/
inductive Kind where
  | special (port : UInt16)
  | file
  | other
deriving DecidableEq, Repr

/-- The kind of a scheme. -/
def Kind.ofScheme (scheme : List Char) : Kind :=
  match String.ofList scheme with
  | "http" | "ws" => .special 80
  | "https" | "wss" => .special 443
  | "ftp" => .special 21
  | "file" => .file
  | _ => .other

namespace Kind

/-- Whether backslashes are slashes. -/
def isSpecial : Kind → Bool
  | .other => false
  | _ => true

/-- The port that is left out. -/
def usualPort? : Kind → Option UInt16
  | .special port => some port
  | _ => none

/-- Whether a character separates the segments of a path. -/
def isSlash (kind : Kind) (c : Char) : Bool :=
  c == '/' || (kind.isSpecial && c == '\\')

/-- The host of a text. -/
def readHost (kind : Kind) (text : List Char) : Except Fault Host :=
  if kind.isSpecial then Host.ofSpecialText text else Host.ofText text

end Kind

/-- A text split at the first character that a test holds for. -/
def cut (test : Char → Bool) (text : List Char) : List Char × List Char :=
  (text.takeWhile (!test ·), text.dropWhile (!test ·))

/-- A text without the blanks and control characters at its ends. -/
def trimmed (text : List Char) : List Char :=
  let trim (text : List Char) := text.dropWhile (· ≤ ' ')
  (trim (trim text).reverse).reverse

/-- Whether a character is a tab or a line end. -/
def isBreak (c : Char) : Bool :=
  c == '\t' || c == '\n' || c == '\r'

/-- A text without tabs and line ends. -/
def unbroken (text : List Char) : List Char :=
  text.filter (!isBreak ·)

/-- Whether a character may follow the first letter of a scheme. -/
def isSchemeCharacter (c : Char) : Bool :=
  c.isAlphanum || c == '+' || c == '-' || c == '.'

/-- The scheme before the first colon of a text, in small letters. -/
def readScheme? (text : List Char) : Option (List Char) :=
  match cut (!isSchemeCharacter ·) text with
  | (first :: scheme, ':' :: _) =>
      if first.isAlpha then some ((first :: scheme).map Char.toLower) else none
  | _ => none

/-- The text before the last at sign and the text after it. -/
def cutLastAt? (text : List Char) : Option (List Char × List Char) :=
  match cut (· == '@') text.reverse with
  | (after, _ :: before) => some (before.reverse, after.reverse)
  | (_, []) => none

/-- The user name and the password of credentials; an empty password is none. -/
def readCredentials (text : List Char) : List Char × Option (List Char) :=
  match cut (· == ':') text with
  | (user, _ :: c :: password) =>
      (encode inUserSet user, some (encode inUserSet (c :: password)))
  | (user, _) => (encode inUserSet user, none)

/-- A text split at the first colon that stands outside brackets. -/
def cutPort (inBrackets : Bool) : List Char → List Char × List Char
  | [] => ([], [])
  | c :: rest =>
      if c = ':' ∧ !inBrackets then ([], c :: rest)
      else
        let (host, port) := cutPort (c = '[' ∨ inBrackets ∧ c ≠ ']') rest
        (c :: host, port)

/-- The port of a text after its colon, and the text after the port. A backslash ends it
under every scheme. -/
def readPort (kind : Kind) (text : List Char) :
    Except Fault (Option UInt16 × List Char) :=
  let (ds, rest) := cut (!·.isDigit) text
  match rest with
  | [] | '\\' :: _ =>
      match readNat? ds with
      | none => .ok (none, rest)
      | some port =>
          if 65535 < port then .error .invalidPort
          else
            let port := UInt16.ofNat port
            .ok (if kind.usualPort? = some port then none else some port, rest)
  | _ => .error .invalidPort

/-- The authority of a text, and the text left after its port. -/
def readAuthority (kind : Kind) (text : List Char) : Except Fault (Authority × List Char) := do
  let (credentials, place) := (cutLastAt? text).getD ([], text)
  let (user, password?) := readCredentials credentials
  let (hostText, portText) := cutPort false place
  if kind.isSpecial && hostText.isEmpty then throw .emptyHost
  let host ← kind.readHost hostText
  if host.isEmpty && !portText.isEmpty then throw .emptyHost
  let (port?, rest) ← readPort kind (portText.drop 1)
  let authority : Authority := ⟨user, password?, host, port?⟩
  if host.isEmpty && authority.hasCredentials then throw .emptyHost
  return (authority, rest)

/-- A segment with encoded points decoded. -/
def withPoints : List Char → List Char
  | '%' :: '2' :: 'e' :: rest | '%' :: '2' :: 'E' :: rest => '.' :: withPoints rest
  | c :: rest => c :: withPoints rest
  | [] => []

/-- Whether a segment begins with the name of a drive: a letter and a colon, or a bar in
its place, at the end or before a backslash. -/
def isOnDrive : List Char → Bool
  | [letter, mark] | letter :: mark :: '\\' :: _ =>
      letter.isAlpha && (mark == ':' || mark == '|')
  | _ => false

/-- Segments in reverse without the last one; the way back stops at a drive. -/
def back : List (List Char) → List (List Char)
  | [] => []
  | segment :: before => if isOnDrive segment then segment :: before else before

/-- The segments of a path after those already read, in reverse: one point stands for
nothing and two for the way back. -/
def readSegments (before : List (List Char)) : List (List Char) → List (List Char)
  | [] => before.reverse
  | segment :: rest =>
      let left := if rest.isEmpty then [[]] else []
      if withPoints segment = ['.'] then readSegments (left ++ before) rest
      else if withPoints segment = ['.', '.'] then readSegments (left ++ back before) rest
      else readSegments (encode inPathSet segment :: before) rest

/-- The path of a text after its first slash. -/
def readPath (kind : Kind) (text : List Char) : Path :=
  .segments (readSegments [] (text.splitOnP kind.isSlash))

/-- The path of a text that follows an authority. -/
def readPathAfter (kind : Kind) (text : List Char) : Path :=
  match text with
  | [] => if kind.isSpecial then .segments [[]] else .segments []
  | c :: rest => if kind.isSlash c then readPath kind rest else readPath kind text

/-- What stands before a query or a fragment, and the query and the fragment. -/
def cutTail (kind : Kind) (text : List Char) :
    List Char × Option (List Char) × Option (List Char) :=
  let (rest, fragment) := cut (· == '#') text
  let (place, query) := cut (· == '?') rest
  let after (part : List Char) : Option (List Char) :=
    match part with
    | [] => none
    | _ :: text => some (unbroken text)
  (place, (after query).map (encode (inQuerySet kind.isSpecial)),
    (after fragment).map (encode inFragmentSet))

/-- A segment that is the name of a drive, with its mark as a colon. -/
def drive? : List Char → Option (List Char)
  | [letter, mark] => if isOnDrive [letter, mark] then some [letter, ':'] else none
  | _ => none

/-- A segment that a tab or a line end cuts right after the colon of a drive: the drive
and what follows. -/
def cutDrive? (segment : List Char) : Option (List Char × List Char) :=
  match unbroken segment with
  | letter :: ':' :: c :: rest =>
      let next? := ((segment.dropWhile (· != ':')).drop 1).head?
      if letter.isAlpha && next?.any isBreak then some ([letter, ':'], c :: rest) else none
  | _ => none

/-- The segments of the path of a file after those already read, in reverse, and whether
its first segment is a drive. The name of a drive counts only there; what a break cuts
from it is a segment of its own, and its points have no meaning. -/
def readFileSegments (before : List (List Char)) (onDrive : Bool) :
    List (List Char) → List (List Char) × Bool
  | [] => (before.reverse, onDrive)
  | broken :: rest =>
      let segment := unbroken broken
      let left := if rest.isEmpty then [[]] else []
      if withPoints segment = ['.'] then readFileSegments (left ++ before) onDrive rest
      else if withPoints segment = ['.', '.'] then
        readFileSegments (left ++ back before) onDrive rest
      else
        match before, drive? segment, cutDrive? broken with
        | [], some drive, _ => readFileSegments [drive] true rest
        | [], none, some (drive, inside) =>
            readFileSegments [encode inPathSet inside, drive] onDrive rest
        | before, _, _ => readFileSegments (encode inPathSet segment :: before) onDrive rest

/-- The path of a file without empty segments at its beginning, and whether its first
segment is a drive. -/
def readFilePath (text : List Char) : Path × Bool :=
  let (parts, onDrive) := readFileSegments [] false (text.splitOnP Kind.file.isSlash)
  match parts.dropWhile (·.isEmpty) with
  | [] => (.segments [[]], onDrive)
  | parts => (.segments parts, onDrive)

/-- The text after a slash. -/
def afterSlash? (text : List Char) : Option (List Char) :=
  match text.dropWhile isBreak with
  | c :: rest => if Kind.file.isSlash c then some rest else none
  | [] => none

/-- The place of a file: two slashes stand before a host, which is left out if it is the
local host or if the path begins with a drive. -/
def readFile (text : List Char) : Except Fault (Authority × Path) := do
  let hostless (text : List Char) : Authority × Path :=
    (⟨[], none, .name [], none⟩, (readFilePath text).1)
  match afterSlash? text, (afterSlash? text).bind afterSlash? with
  | none, _ => return hostless text
  | some rest, none => return hostless rest
  | some _, some rest =>
      let (host, pathText) := cut Kind.file.isSlash rest
      let hostText := unbroken host
      if (drive? hostText).isSome then return hostless rest
      if hostText.isEmpty then return hostless pathText
      let host ← Host.ofSpecialText hostText
      if host = .name "localhost".toList then return hostless pathText
      let (path, onDrive) := readFilePath (pathText.drop 1)
      return (⟨[], none, if onDrive then .name [] else host, none⟩, path)

/-- The authority and the path of a text of a kind. `isLast` says that neither a query nor
a fragment follows the text. -/
def readPlace (kind : Kind) (text : List Char) (isLast : Bool) :
    Except Fault (Option Authority × Path) :=
  let authorityAndPath (text : List Char) : Except Fault (Option Authority × Path) := do
    let (authorityText, pathText) := cut kind.isSlash text
    if authorityText == ['@'] && !(pathText.isEmpty && isLast) then throw .emptyHost
    let (authority, rest) ← readAuthority kind authorityText
    return (some authority, readPathAfter kind (rest ++ pathText))
  match kind, unbroken text with
  | .file, _ => (readFile text).map fun (authority, path) => (some authority, path)
  | .special _, text => authorityAndPath (text.dropWhile kind.isSlash)
  | .other, '/' :: '/' :: rest => authorityAndPath rest
  | .other, '/' :: rest => .ok (none, readPath kind rest)
  | .other, text => .ok (none, .plain (encode isControl text))

/-- The absolute URL that a text gives. -/
def ofText (text : String) : Except Fault Url := do
  let text := trimmed text.toList
  match readScheme? (unbroken text) with
  | none => throw .relativeWithoutBase
  | some scheme =>
      let kind := Kind.ofScheme scheme
      let (place, query?, fragment?) := cutTail kind ((text.dropWhile (· != ':')).drop 1)
      let isLast := query?.isNone && fragment?.isNone
      let (authority?, path) ← readPlace kind place isLast
      return ⟨scheme, authority?, path, query?, fragment?⟩

/-- A text with the password of its URL hidden, or a mark if it is none. -/
def redact (text : String) : String :=
  match ofText text with
  | .ok url => url.redacted.text
  | .error _ => "<redacted>"

end TableStore.Url
