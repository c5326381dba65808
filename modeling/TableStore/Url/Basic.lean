import TableStore.Decimal.Digits
import TableStore.Url.Host

/-!
# URLs

An absolute URL has a scheme, perhaps an authority, a path, and perhaps a query and a
fragment. The parts are held in their written form, in which the characters that their
places do not allow are encoded.

A redacted URL shows that there is a password, and not what it is.

URLs, their hosts and their encodings are those of the URL Standard, as the library `url`
documents that it implements it.
-/

namespace TableStore

open Decimal

namespace Url

/-- Who may be reached where: the credentials, the host and the port. -/
structure Authority where
  user : List Char := []
  password? : Option (List Char) := none
  host : Host
  port? : Option UInt16 := none
deriving DecidableEq

/-- A path: a text without structure, or segments, each after a slash. -/
inductive Path where
  | plain (text : List Char)
  | segments (parts : List (List Char))
deriving DecidableEq

/-- The written form of a path. -/
def Path.text : Path → List Char
  | .plain text => text
  | .segments parts => parts.flatMap ('/' :: ·)

/-- Whether an authority has credentials. -/
def Authority.hasCredentials (authority : Authority) : Bool :=
  !authority.user.isEmpty || authority.password?.isSome

/-- An optional part after its mark. -/
def marked (mark : Char) : Option (List Char) → List Char
  | none => []
  | some text => mark :: text

/-- The written form of an authority. -/
def Authority.text (authority : Authority) : List Char :=
  authority.user ++ marked ':' authority.password? ++
    (if authority.hasCredentials then ['@'] else []) ++ authority.host.text ++
    marked ':' (authority.port?.map fun port => digits port.toNat)

end Url

/-- An absolute URL. -/
structure Url where
  scheme : List Char
  authority? : Option Url.Authority
  path : Url.Path
  query? : Option (List Char)
  fragment? : Option (List Char)
deriving DecidableEq

namespace Url

/-- The mark of the authority, or what keeps a path that begins with two slashes from
being read as one. -/
def afterScheme (url : Url) : List Char :=
  match url.authority? with
  | some authority => '/' :: '/' :: authority.text
  | none =>
      match url.path.text with
      | '/' :: '/' :: _ => ['/', '.']
      | _ => []

/-- The written form of a URL. -/
def text (url : Url) : String :=
  String.ofList <|
    url.scheme ++ [':'] ++ url.afterScheme ++ url.path.text ++ marked '?' url.query? ++
      marked '#' url.fragment?

/-- The host of a URL, unless it is the empty name. -/
def host? (url : Url) : Option Host :=
  (url.authority?.map Authority.host).filter (!·.isEmpty)

/-- The port that a URL names. -/
def port? (url : Url) : Option UInt16 :=
  url.authority?.bind Authority.port?

/-- The user name of a URL, empty if there is none. -/
def user (url : Url) : List Char :=
  (url.authority?.map Authority.user).getD []

/-- The names and values in the query of a URL. -/
def queryPairs (url : Url) : List (String × String) :=
  (formPairs (url.query?.getD [])).map fun (name, value) =>
    (String.ofList name, String.ofList value)

/-- What is shown instead of a password. -/
def hiddenPassword : List Char :=
  ['*', '*', '*', '*']

/-- An authority with its password hidden. -/
def Authority.redacted (authority : Authority) : Authority :=
  { authority with password? := authority.password?.map fun _ => hiddenPassword }

/-- A URL with its password hidden. -/
def redacted (url : Url) : Url :=
  { url with authority? := url.authority?.map Authority.redacted }

end Url

end TableStore
