import TableStore.Binary.Number
import TableStore.Calendar.Time
import TableStore.Value.Type

/-!
# Values

A value belongs to exactly one value type; the absence of a value is an absent
option around it.

Two relations compare values. Equality of content is equality of numbers on binary
numbers, so both zeros agree and a pattern that is not a number agrees with
nothing. The order puts values of different types in the order of their types and
is absent exactly where a pattern that is not a number takes part.
-/

namespace TableStore

open Binary Calendar

/-- A value of one of the value types. -/
inductive Value where
  | string (text : String)
  | boolean (truth : Bool)
  | byte (number : Int8)
  | integer (number : Int32)
  | long (number : Int64)
  | float (number : Single)
  | double (number : Double)
  | blob (bytes : List UInt8)
  | localDate (date : Date)
  | localTime (time : Time)
  | localDateTime (date : Date) (time : Time)
deriving DecidableEq

namespace Value

/-- The type that a value belongs to. -/
def type : Value → ValueType
  | .string _ => .string
  | .boolean _ => .boolean
  | .byte _ => .byte
  | .integer _ => .integer
  | .long _ => .long
  | .float _ => .float
  | .double _ => .double
  | .blob _ => .blob
  | .localDate _ => .localDate
  | .localTime _ => .localTime
  | .localDateTime _ _ => .localDateTime

/-- The text of a string value. -/
def asString? : Value → Option String
  | .string text => some text
  | _ => none

/-- The number of an integer value. -/
def asInteger? : Value → Option Int32
  | .integer number => some number
  | _ => none

/-- The date of a date value. -/
def asLocalDate? : Value → Option Date
  | .localDate date => some date
  | _ => none

/-- Equality of content. -/
def agrees : Value → Value → Bool
  | .float a, .float b => a.agrees b
  | .double a, .double b => a.agrees b
  | a, b => a == b

/-- The order of two values of a type with a decidable strict order. -/
private def orderOf {α : Type} [DecidableEq α] [LT α] [DecidableLT α] (a b : α) :
    Option Ordering :=
  some (compareOfLessAndEq a b)

/-- The order of two values, if they are comparable. -/
def compare? : Value → Value → Option Ordering
  | .string a, .string b => orderOf a b
  | .boolean a, .boolean b => some (Ord.compare a.toNat b.toNat)
  | .byte a, .byte b => some (Ord.compare a.toInt b.toInt)
  | .integer a, .integer b => some (Ord.compare a.toInt b.toInt)
  | .long a, .long b => some (Ord.compare a.toInt b.toInt)
  | .float a, .float b => a.compare? b
  | .double a, .double b => a.compare? b
  | .blob a, .blob b => orderOf a b
  | .localDate a, .localDate b => some (a.compare b)
  | .localTime a, .localTime b => some (a.compare b)
  | .localDateTime a s, .localDateTime b t => some ((a.compare b).then (s.compare t))
  | a, b => some (Ord.compare a.type.rank b.type.rank)

end Value

end TableStore
