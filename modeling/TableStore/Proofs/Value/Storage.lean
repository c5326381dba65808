import TableStore.Operation.Row
import TableStore.Proofs.Value.Order

/-!
# Values come back from their columns

A column of a native type keeps the constants of that type, each in a cell; an integer must lie
within the width of the column. What is written for a value that suits a field is read as such a
constant, and reading the cell at the type of the field gives the value again.

A byte is kept in a column of two bytes and read back from there. What is not a number comes back
as the one pattern that a server has for it, and every other value is the same as before.
-/

namespace TableStore

open Server Sql

namespace Server.Cell

/-- The native type of the columns that a cell can stand in; an empty cell can stand in all. -/
def nativeName? : Cell → Option String
  | .null => none
  | .characters _ => some "text"
  | .bool _ => some "boolean"
  | .int2 _ => some "smallint"
  | .int4 _ => some "integer"
  | .int8 _ => some "bigint"
  | .float4 _ => some "real"
  | .float8 _ => some "double precision"
  | .bytea _ => some "bytea"
  | .date _ => some "date"
  | .time _ => some "time without time zone"
  | .timestamp _ _ => some "timestamp without time zone"
  | .timestamptz _ _ => some "timestamp with time zone"
  | .other type _ => some type

/-- The cell in which a column of a native type keeps an integer, if it is wide enough. -/
def ofInteger? (native : String) (n : Int) : Option Cell :=
  if native = "smallint" then
    if -32768 ≤ n ∧ n ≤ 32767 then some (.int2 (.ofInt n)) else none
  else if native = "integer" then
    if -2147483648 ≤ n ∧ n ≤ 2147483647 then some (.int4 (.ofInt n)) else none
  else if native = "bigint" then
    if -9223372036854775808 ≤ n ∧ n ≤ 9223372036854775807 then some (.int8 (.ofInt n)) else none
  else none

/-- The cell in which a column of a native type keeps a constant of that type. -/
def ofLiteral? (native : String) : Literal → Option Cell
  | .null => some .null
  | .string text => if native = "text" then some (.characters text) else none
  | .boolean truth => if native = "boolean" then some (.bool truth) else none
  | .integer n => ofInteger? native n
  | .real x => if native = "real" then some (.float4 x) else none
  | .double x => if native = "double precision" then some (.float8 x) else none
  | .bytes content => if native = "bytea" then some (.bytea content) else none
  | .date day => if native = "date" then some (.date day) else none
  | .time clock => if native = "time without time zone" then some (.time clock) else none
  | .timestamp day clock =>
      if native = "timestamp without time zone" then some (.timestamp day clock) else none

end Server.Cell

/-- What a server reads in the text of a constant. -/
def Sql.Literal.ofText? (text : String) : Option Literal :=
  (tokenize text.toList).bind (readAll? readLiteral)

/-- A constant that can be stored is read from its whole text. -/
theorem Sql.Literal.ofText?_text {literal : Literal} (storable : literal.IsStorable) :
    ofText? literal.text = some literal.canonical := by
  rw [ofText?, spells_literal, Option.bind_some]
  exact (reads_literal storable).readAll?

namespace Value

/-- Whether a value is a binary pattern that stands for no number. -/
def isNaN : Value → Bool
  | .float x => x.isNaN
  | .double x => x.isNaN
  | _ => false

/-- What a server stores of a value is not a number exactly when the value is not. -/
theorem isNaN_canonical (value : Value) : value.canonical.isNaN = value.isNaN := by
  cases value with
  | float x =>
      by_cases nan : x.isNaN = true
      · simp [canonical, isNaN, Binary.Number.canonical, nan, Binary.Number.isNaN_nan_single]
      · simp [canonical, isNaN, Binary.Number.canonical, nan]
  | double x =>
      by_cases nan : x.isNaN = true
      · simp [canonical, isNaN, Binary.Number.canonical, nan, Binary.Number.isNaN_nan_double]
      · simp [canonical, isNaN, Binary.Number.canonical, nan]
  | _ => rfl

/-- A server stores every other value as it is. -/
theorem canonical_eq_self {value : Value} (number : value.isNaN = false) :
    value.canonical = value := by
  cases value with
  | float x | double x =>
      have finite : x.isNaN = false := number
      simp [canonical, Binary.Number.canonical, finite]
  | _ => rfl

/-- A byte fits into two bytes and is read back from there. -/
theorem readCell_byte (b : Int8) :
    readCell .byte (.int2 (.ofInt b.toInt)) = .ok (some (.byte b)) := by
  have least := b.le_toInt
  have greatest := b.toInt_lt
  have widened : (Int16.ofInt b.toInt).toInt = b.toInt :=
    Int16.toInt_ofInt_of_le (by omega) (by omega)
  rw [readCell, widened, if_pos (by omega), Int8.ofInt_toInt]

/-- A column of the type of a value keeps its constant in a cell of that type, from which the value
is read. -/
theorem exists_cell (value : Value) :
    ∃ cell, Cell.ofLiteral? value.type.nativeName value.literal = some cell ∧
      cell.nativeName? = some value.type.nativeName ∧
      readCell value.type cell = .ok (some value) := by
  cases value with
  | byte b =>
      have least := b.le_toInt
      have greatest := b.toInt_lt
      exact ⟨.int2 (.ofInt b.toInt), if_pos (by omega), rfl, readCell_byte b⟩
  | integer n =>
      have least := n.le_toInt
      have greatest := n.toInt_lt
      exact ⟨.int4 (.ofInt n.toInt), if_pos (by omega), rfl, by rw [Int32.ofInt_toInt]; rfl⟩
  | long n =>
      have least := n.le_toInt
      have greatest := n.toInt_lt
      exact ⟨.int8 (.ofInt n.toInt), if_pos (by omega), rfl, by rw [Int64.ofInt_toInt]; rfl⟩
  | string | boolean | float | double | blob | localDate | localTime | localDateTime =>
      exact ⟨_, rfl, rfl, rfl⟩

end Value

/-- The field of a row whose cell is known is read from this cell. -/
theorem readField_eq {field : Field} {cell : Cell} {value : Option Value}
    (read : readCell field.type cell = .ok value) (table : String) {columns : List String}
    {row : List Cell} (found : cellNamed? columns row field.name = some cell) :
    readField table columns row field = .ok value := by
  simp only [readField, found, read]
  rfl

/-- What is written for a value that suits a field is read to its end as a constant that a column
of the type of the field keeps, and what is read for the field from any row with that cell is the
value again; what is not a number comes back as no number. -/
theorem literals_come_back {field : Field} {value : Value}
    (suits : field.valueError? value = none) :
    ∃ constant cell back,
      Literal.ofText? (field.literal (some value)).text = some constant ∧
      Cell.ofLiteral? field.type.nativeName constant = some cell ∧
      cell.nativeName? = some field.type.nativeName ∧
      (∀ table columns row, cellNamed? columns row field.name = some cell →
        readField table columns row field = .ok (some back)) ∧
      back.type = field.type ∧ back.isNaN = value.isNaN ∧
      (value.isNaN = false → back = value) := by
  obtain ⟨typeSuits, -⟩ := Option.or_eq_none_iff.mp suits
  obtain ⟨sameType, storable⟩ := (field.typeError?_eq_none_iff value).mp typeSuits
  obtain ⟨cell, kept, native, read⟩ := value.canonical.exists_cell
  rw [Value.type_canonical, sameType] at kept native read
  have written : field.literal (some value) = value.literal := if_pos sameType
  refine ⟨value.literal.canonical, cell, value.canonical, ?_, ?_, native, ?_, ?_, ?_, ?_⟩
  · rw [written]
    exact Literal.ofText?_text (Value.isStorable_literal storable)
  · rw [value.literal_canonical]
    exact kept
  · exact fun table columns row found => readField_eq read table found
  · rw [Value.type_canonical, sameType]
  · exact value.isNaN_canonical
  · exact Value.canonical_eq_self

/-- A field for any text. -/
def remarkField : Field :=
  { name := "remark", type := .string, role := .nullable }

/-- A remark that would end its string comes back. -/
theorem hostile_remark_comes_back :
    remarkField.valueError? (.string "\\'; DROP TABLE x; --") = none ∧
      ∃ constant cell,
        Literal.ofText? "E'\\\\''; DROP TABLE x; --'" = some constant ∧
        Cell.ofLiteral? "text" constant = some cell ∧
        readField "main.note" ["remark"] [cell] remarkField =
          .ok (some (.string "\\'; DROP TABLE x; --")) := by
  have suits : remarkField.valueError? (.string "\\'; DROP TABLE x; --") = none := rfl
  have text : (remarkField.literal (some (.string "\\'; DROP TABLE x; --"))).text =
      "E'\\\\''; DROP TABLE x; --'" := by decide +kernel
  obtain ⟨constant, cell, back, read, kept, -, field, -, -, same⟩ := literals_come_back suits
  rw [text] at read
  rw [same rfl] at field
  exact ⟨suits, constant, cell, read, kept, field "main.note" ["remark"] [cell] rfl⟩

end TableStore
