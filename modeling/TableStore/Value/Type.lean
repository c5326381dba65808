/-!
# Value types

The closed set of types that a column may have. Three families matter to
selections: numbers, points in time, and the two types of text and truth values that
stand alone.
-/

namespace TableStore

/-- The type of the values of a column. -/
inductive ValueType where
  | string
  | boolean
  | byte
  | integer
  | long
  | float
  | double
  | blob
  | localDate
  | localTime
  | localDateTime
deriving DecidableEq, Repr

namespace ValueType

/-- Every type, in order of declaration. -/
def all : List ValueType :=
  [.string, .boolean, .byte, .integer, .long, .float, .double, .blob, .localDate,
    .localTime, .localDateTime]

/-- The name of a type in messages and reports. -/
def name : ValueType → String
  | .string => "STRING"
  | .boolean => "BOOLEAN"
  | .byte => "BYTE"
  | .integer => "INTEGER"
  | .long => "LONG"
  | .float => "FLOAT"
  | .double => "DOUBLE"
  | .blob => "BLOB"
  | .localDate => "LOCAL_DATE"
  | .localTime => "LOCAL_TIME"
  | .localDateTime => "LOCAL_DATE_TIME"

/-- Whether the values are integers or binary numbers. -/
def isNumeric : ValueType → Bool
  | .byte | .integer | .long | .float | .double => true
  | _ => false

/-- Whether the values are dates or times. -/
def isTemporal : ValueType → Bool
  | .localDate | .localTime | .localDateTime => true
  | _ => false

/-- The position of a type in the order of declaration. -/
def rank : ValueType → Nat
  | .string => 0
  | .boolean => 1
  | .byte => 2
  | .integer => 3
  | .long => 4
  | .float => 5
  | .double => 6
  | .blob => 7
  | .localDate => 8
  | .localTime => 9
  | .localDateTime => 10

end ValueType

end TableStore
