import TableStore.Field
import TableStore.Hex
import TableStore.Sql.Quoting

/-!
# Literals

A literal is a constant of a statement. Integers stand as they are, texts and bytes
are escape strings, binary numbers are quoted and cast so that their digits are read
at the right width, and dates and times carry the name of their type.

A value becomes the literal of its type. In the column of a field the absence of a
value is the null literal, and so is a value of another type.
-/

namespace TableStore.Sql

open Binary Calendar

/-- A constant of a statement. -/
inductive Literal where
  | null
  | string (text : String)
  | boolean (truth : Bool)
  | integer (number : Int)
  | real (number : Single)
  | double (number : Double)
  | bytes (bytes : List UInt8)
  | date (date : Date)
  | time (time : Time)
  | timestamp (date : Date) (time : Time)
deriving DecidableEq

/-- The text of a binary number inside its quotes. -/
def numberText {format : Format} (x : Number format) : String :=
  x.textNaming "Infinity"

/-- The text of a literal. -/
def Literal.text : Literal → String
  | .null => "NULL"
  | .string content => quoteString content
  | .boolean true => "TRUE"
  | .boolean false => "FALSE"
  | .integer n => integerText n
  | .real x => "'" ++ numberText x ++ "'::real"
  | .double x => "'" ++ numberText x ++ "'::double precision"
  | .bytes content => "E'\\\\x" ++ String.ofList (content.flatMap Hex.ofByte) ++ "'::bytea"
  | .date day => "DATE '" ++ String.ofList day.text ++ "'"
  | .time clock => "TIME '" ++ String.ofList clock.microText ++ "'"
  | .timestamp day clock =>
      "TIMESTAMP '" ++ String.ofList day.text ++ " " ++ String.ofList clock.microText ++ "'"

end TableStore.Sql

namespace TableStore

/-- The literal of a value. -/
def Value.literal : Value → Sql.Literal
  | .string text => .string text
  | .boolean truth => .boolean truth
  | .byte number => .integer number.toInt
  | .integer number => .integer number.toInt
  | .long number => .integer number.toInt
  | .float number => .real number
  | .double number => .double number
  | .blob bytes => .bytes bytes
  | .localDate date => .date date
  | .localTime time => .time time
  | .localDateTime date time => .timestamp date time

/-- The literal of a value or of nothing in the column of a field. -/
def Field.literal (field : Field) : Option Value → Sql.Literal
  | none => .null
  | some value => if value.type = field.type then value.literal else .null

end TableStore
