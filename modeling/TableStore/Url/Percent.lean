import TableStore.Hex
import TableStore.Text.Utf8

/-!
# Percent encoding

A byte is encoded as a percent sign and two hexadecimal digits. Each part of a URL has a
set of characters that must be encoded in it; characters outside ASCII are always
encoded, byte by byte. Decoding turns every well-formed encoding into its byte and
leaves every other character alone.
-/

namespace TableStore.Url

open Text

/-- Whether a character is a control character or outside ASCII. -/
def isControl (c : Char) : Bool :=
  c.toNat < 0x20 || 0x7E < c.toNat

/-- What is encoded in a fragment. -/
def inFragmentSet (c : Char) : Bool :=
  isControl c || c == ' ' || c == '"' || c == '<' || c == '>' || c == '\x60'

/-- What is encoded in a path. -/
def inPathSet (c : Char) : Bool :=
  inFragmentSet c || c == '#' || c == '?' || c == '\x7b' || c == '\x7d'

/-- What is encoded in a user name or a password. -/
def inUserSet (c : Char) : Bool :=
  inPathSet c || c == '/' || c == ':' || c == ';' || c == '=' || c == '@' || c == '[' ||
    c == '\\' || c == ']' || c == '^' || c == '|'

/-- What is encoded in a query; a single quote only where the scheme is special. -/
def inQuerySet (special : Bool) (c : Char) : Bool :=
  isControl c || c == ' ' || c == '"' || c == '#' || c == '<' || c == '>' ||
    (special && c == '\'')

/-- The encoding of a byte. -/
def encodeByte (byte : UInt8) : List Char :=
  '%' :: (Hex.ofByte byte).map Char.toUpper

/-- A text with the characters of a set encoded. -/
def encode (inSet : Char → Bool) (text : List Char) : List Char :=
  text.flatMap fun c =>
    if inSet c then (String.utf8EncodeChar c).flatMap encodeByte else [c]

/-- The bytes of a text with encoded bytes. -/
def decode : List Char → List UInt8
  | [] => []
  | '%' :: a :: b :: rest =>
      match Hex.digitValue? a, Hex.digitValue? b with
      | some high, some low => UInt8.ofNat (high * 16 + low) :: decode rest
      | _, _ => String.utf8EncodeChar '%' ++ decode (a :: b :: rest)
  | c :: rest => String.utf8EncodeChar c ++ decode rest

/-- The text of a part of a form: plus signs are spaces, encoded bytes are read as UTF-8. -/
def decodeForm (text : List Char) : List Char :=
  decodeUtf8 (decode (text.map fun c => if c = '+' then ' ' else c))

/-- A text split at a character. -/
def splitAt (mark : Char) (text : List Char) : List (List Char) :=
  text.splitOnP (· == mark)

/-- The names and values of a form, without its empty parts. -/
def formPairs (text : List Char) : List (List Char × List Char) :=
  ((splitAt '&' text).filter (!·.isEmpty)).map fun part =>
    (decodeForm (part.takeWhile (· != '=')),
      decodeForm ((part.dropWhile (· != '=')).drop 1))

end TableStore.Url
