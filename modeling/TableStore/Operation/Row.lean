import TableStore.Server.Answer
import TableStore.Record

/-!
# Reading rows

A row of a result becomes a record by looking up the cell of every field by name and
reading it at the type of the field. Further columns and their order do not matter. An
empty cell reads as nothing whatever its type. Bytes are stored in a wider type
and must fit when they come back.

Which native type is read at which type is what the driver `sqlx` documents for its decoders; a
cell of another native type is refused. The wording of its refusals is not kept, only that the
column is at fault. Of several columns with one name the driver finds the last.
-/

namespace TableStore

open Server

/-- The value of a cell at a type; nothing for an empty cell. -/
def readCell (type : ValueType) (cell : Cell) : Except DecodeFault (Option Value) :=
  match type, cell with
  | _, .null => .ok none
  | .string, .characters text => .ok (some (.string text))
  | .boolean, .bool truth => .ok (some (.boolean truth))
  | .byte, .int2 number =>
      if -128 ≤ number.toInt ∧ number.toInt ≤ 127 then
        .ok (some (.byte (Int8.ofInt number.toInt)))
      else .error (.byteOverflow number.toInt)
  | .integer, .int4 number => .ok (some (.integer number))
  | .long, .int8 number => .ok (some (.long number))
  | .float, .float4 number => .ok (some (.float number))
  | .double, .float8 number => .ok (some (.double number))
  | .blob, .bytea bytes => .ok (some (.blob bytes))
  | .localDate, .date date => .ok (some (.localDate date))
  | .localTime, .time time => .ok (some (.localTime time))
  | .localDateTime, .timestamp date time => .ok (some (.localDateTime date time))
  | _, _ => .error .column

/-- The cell of a row under the last column with a name. -/
def cellNamed? (columns : List String) (row : List Cell) (name : String) : Option Cell :=
  (columns.zip row).reverse.lookup name

/-- The value of a field in a row. -/
def readField (table : String) (columns : List String) (row : List Cell) (field : Field) :
    Except Error (Option Value) :=
  let value : Except DecodeFault (Option Value) :=
    match cellNamed? columns row field.name with
    | some cell => readCell field.type cell
    | none => .error .column
  value.mapError (.decode table field.name)

/-- The values of fields in a row, or the error of the first that cannot be read. -/
def readFields (table : String) (columns : List String) (row : List Cell) :
    List Field → Except Error (List (Option Value))
  | [] => .ok []
  | field :: rest =>
      match readField table columns row field with
      | .error error => .error error
      | .ok value => (readFields table columns row rest).map (value :: ·)

/-- The record of a row, or the error of the first field that cannot be read. -/
def Record.ofRow (table : Table) (columns : List String) (row : List Cell) :
    Except Error Record :=
  match readFields table.qualifiedName columns row table.fields with
  | .error error => .error error
  | .ok values => Record.restore table values

/-- The records of rows in order, or the error of the first that cannot be read. -/
def Record.ofRows (table : Table) (columns : List String) :
    List (List Cell) → Except Error (List Record)
  | [] => .ok []
  | row :: rest =>
      match Record.ofRow table columns row with
      | .error error => .error error
      | .ok record => (Record.ofRows table columns rest).map (record :: ·)

end TableStore
