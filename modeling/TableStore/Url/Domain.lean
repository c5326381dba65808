import TableStore.Unicode.Direction
import TableStore.Unicode.DomainMapping
import TableStore.Unicode.Joining
import TableStore.Url.Punycode

/-!
# Domain names

A domain name is a text of labels between full stops. Its characters are mapped and
composed, so that one name has one spelling, and every label is checked; a label with
characters outside ASCII is then written in ASCII, after a mark. A label that already
bears the mark must be the written form of a label in that one spelling.

This is the processing of UTS 46 with the flags that the URL Standard sets for hosts, behind
the library `url`.
-/

namespace TableStore.Url.Domain

open Unicode

/-- Whether a domain name holds no such character. -/
def isDenied (c : Char) : Bool :=
  c.toNat < 0x20 ||
    [' ', '#', '%', '/', ':', '<', '>', '?', '@', '[', '\\', ']', '^', '|', '\x7f'].contains c

/-- Whether a character is one of ASCII. -/
def isAscii (c : Char) : Bool :=
  c.toNat < 0x80

/-- The mark of a label that is written in ASCII. -/
def asciiMark : List Char :=
  ['x', 'n', '-', '-']

/-- The greatest number of characters of a label outside ASCII. -/
def labelBound : Nat := 1000

/-- The greatest number of characters after the mark of a label. -/
def writtenBound : Nat := 2000

/-- The one spelling of a text, if no character of it is refused. -/
def spelling? (text : List Char) : Option (List Char) :=
  (text.mapM inDomain?).map fun parts => composed parts.flatten

/-- The label that a text after the mark stands for. -/
def readWritten? (text : List Char) : Option (List Char) := do
  guard (text.all isAscii && text.length ≤ writtenBound && !(text.getLastD '-' == '-'))
  let label ← Punycode.decode? text
  guard (spelling? label = some label && !asciiMark.isPrefixOf label)
  return label

/-- The label that a text between full stops stands for. -/
def readLabel? (text : List Char) : Option (List Char) := do
  let label ← if asciiMark.isPrefixOf text then readWritten? (text.drop asciiMark.length)
    else some text
  guard (!label.any isDenied && (label.head?.bind mark?).isNone && joinersMean [] label)
  guard (label.all isAscii || label.length ≤ labelBound)
  return label

/-- The form of a label in ASCII. -/
def writeLabel (label : List Char) : List Char :=
  if label.all isAscii then label else asciiMark ++ Punycode.encode label

/-- Whether labels can be read in one way only, where any of them brings in the direction
from right to left. -/
def areReadable (labels : List (List Char)) : Bool :=
  let directions := labels.map (·.map direction)
  !directions.any (·.any Direction.isRight) || directions.all Direction.isReadable

/-- The form of a domain name in ASCII. -/
def ofText? (text : List Char) : Option (List Char) := do
  let labels ← ((← spelling? text).splitOnP (· == '.')).mapM readLabel?
  guard (areReadable labels)
  return ['.'].intercalate (labels.map writeLabel)

end TableStore.Url.Domain
