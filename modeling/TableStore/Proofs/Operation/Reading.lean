import TableStore.Proofs.Operation.Basic
import TableStore.Proofs.Operation.Row
import TableStore.Proofs.Value.Storage

/-!
# What a query reads

A row is read field by field: what counts is the cell under the name of the field, wherever it
stands and whatever else there is. A query gives a record for each row of the answer when every
field of every row can be read. Otherwise the first row with a field that cannot be read, and the
first such field in it, decide the error, and there are no records.
-/

namespace TableStore

open Server

/-! ## Cells -/

namespace Server.Cell

/-- The value that a cell has at a type; an empty cell has none. A byte is what two bytes hold, if
it is the same number. -/
inductive Decodes : Cell → ValueType → Option Value → Prop
  | null (type : ValueType) : Decodes .null type none
  | characters (text : String) : Decodes (.characters text) .string (some (.string text))
  | bool (truth : Bool) : Decodes (.bool truth) .boolean (some (.boolean truth))
  | int2 {number : Int16} {byte : Int8} (same : byte.toInt = number.toInt) :
      Decodes (.int2 number) .byte (some (.byte byte))
  | int4 (number : Int32) : Decodes (.int4 number) .integer (some (.integer number))
  | int8 (number : Int64) : Decodes (.int8 number) .long (some (.long number))
  | float4 (number : Binary.Single) : Decodes (.float4 number) .float (some (.float number))
  | float8 (number : Binary.Double) : Decodes (.float8 number) .double (some (.double number))
  | bytea (bytes : List UInt8) : Decodes (.bytea bytes) .blob (some (.blob bytes))
  | date (date : Calendar.Date) : Decodes (.date date) .localDate (some (.localDate date))
  | time (time : Calendar.Time) : Decodes (.time time) .localTime (some (.localTime time))
  | timestamp (date : Calendar.Date) (time : Calendar.Time) :
      Decodes (.timestamp date time) .localDateTime (some (.localDateTime date time))

/-- Why a cell has no value at a type: two bytes hold a number that is not one of a byte, or the
cell is of another type. -/
inductive Undecodable : Cell → ValueType → DecodeFault → Prop
  | overflow {number : Int16} (outside : number.toInt < -128 ∨ 127 < number.toInt) :
      Undecodable (.int2 number) .byte (.byteOverflow number.toInt)
  | otherType {cell : Cell} {type : ValueType} (noValue : ∀ value, ¬cell.Decodes type value)
      (noNumber : ∀ number, cell = .int2 number → type ≠ .byte) :
      Undecodable cell type .column

/-- What is read from a cell is the value that it has at the type. -/
theorem readCell_eq_ok_iff {cell : Cell} {type : ValueType} {value : Option Value} :
    readCell type cell = .ok value ↔ cell.Decodes type value := by
  constructor
  · intro read
    unfold readCell at read
    split at read
    case h_4 number =>
      split at read
      · rename_i fits
        cases read
        apply Decodes.int2
        exact Int8.toInt_ofInt_of_le (by omega) (by omega)
      · cases read
    all_goals cases read
    all_goals constructor
  · intro decodes
    cases decodes with
    | null => cases type <;> rfl
    | @int2 number byte same =>
        have least := byte.le_toInt
        have greatest := byte.toInt_lt
        rw [readCell, ← same, if_pos (by omega), Int8.ofInt_toInt]
    | _ => rfl

/-- A cell that is not read has no value at the type, and the fault says why. -/
theorem readCell_eq_error_iff {cell : Cell} {type : ValueType} {fault : DecodeFault} :
    readCell type cell = .error fault ↔ cell.Undecodable type fault := by
  have forward (fault : DecodeFault) (failed : readCell type cell = .error fault) :
      cell.Undecodable type fault := by
    have noValue (value : Option Value) : ¬cell.Decodes type value := by
      intro decodes
      cases failed.symm.trans (readCell_eq_ok_iff.mpr decodes)
    unfold readCell at failed
    split at failed
    case h_4 number =>
      split at failed
      · cases failed
      · cases failed
        apply Undecodable.overflow
        omega
    -- no pair of a cell and a type that can be read is left
    case h_13 noNumber _ _ _ _ _ _ _ _ =>
      cases failed
      exact .otherType noValue fun number cell type => noNumber number type cell
    all_goals cases failed
  constructor
  · exact forward fault
  · intro undecodable
    cases undecodable with
    | @overflow number outside => rw [readCell, if_neg (by omega)]
    | otherType noValue noNumber =>
        cases read : readCell type cell with
        | ok value => exact (noValue value (readCell_eq_ok_iff.mp read)).elim
        | error fault =>
            cases forward fault read with
            | overflow outside => exact (noNumber _ rfl rfl).elim
            | otherType => rfl

end Server.Cell

/-! ## Rows -/

section Rows

variable {columns : List String} {row : List Cell}

/-- Where no two columns share a name, a cell is found under a name exactly when it stands in the
column of this name. -/
theorem cellNamed?_eq_some_iff (distinct : columns.Nodup) {name : String} {cell : Cell} :
    cellNamed? columns row name = some cell ↔ (name, cell) ∈ columns.zip row := by
  have headed : ((columns.zip row).map Prod.fst).Sublist columns := by
    clear distinct
    induction columns generalizing row with
    | nil => simp
    | cons column columns ih =>
        cases row with
        | nil => simp
        | cons cell row => exact List.Sublist.cons_cons column ih
  have reversed : ((columns.zip row).reverse.map Prod.fst).Nodup := by
    rw [List.map_reverse, List.nodup_reverse]
    exact distinct.sublist headed
  rw [cellNamed?, lookup_eq_some_iff_mem reversed, List.mem_reverse]

namespace Field

/-- Whether a row has a value of a field: the cell under the name of the field has it at the type
of the field. -/
def Reads (field : Field) (columns : List String) (row : List Cell) (value : Option Value) : Prop :=
  ∃ cell, (field.name, cell) ∈ columns.zip row ∧ cell.Decodes field.type value

/-- Why a row has no value of a field: there is no cell under its name, or the one that is there
has no value at its type. -/
inductive Unreadable (field : Field) (columns : List String) (row : List Cell) : DecodeFault → Prop
  | missing (absent : ∀ cell, (field.name, cell) ∉ columns.zip row) :
      Unreadable field columns row .column
  | cell {cell : Cell} {fault : DecodeFault} (own : (field.name, cell) ∈ columns.zip row)
      (undecodable : cell.Undecodable field.type fault) : Unreadable field columns row fault

end Field

/-- What is read for a field is what the row has for it. -/
theorem readField_eq_ok_iff (distinct : columns.Nodup) (table : String) {field : Field}
    {value : Option Value} :
    readField table columns row field = .ok value ↔ field.Reads columns row value := by
  unfold readField Field.Reads
  simp only [mapError_eq_ok_iff, ← cellNamed?_eq_some_iff distinct, ← Cell.readCell_eq_ok_iff]
  cases cellNamed? columns row field.name <;> simp

/-- The error of a field that is not read names the table and the field. -/
theorem readField_eq_error_iff (distinct : columns.Nodup) {table : String} {field : Field}
    {error : Error} :
    readField table columns row field = .error error ↔
      ∃ fault, field.Unreadable columns row fault ∧ error = .decode table field.name fault := by
  unfold readField
  rw [mapError_eq_error_iff]
  apply exists_congr
  intro fault
  apply and_congr_left'
  cases named : cellNamed? columns row field.name with
  | none =>
      have absent (cell : Cell) : (field.name, cell) ∉ columns.zip row := fun own => by
        cases named.symm.trans ((cellNamed?_eq_some_iff distinct).mpr own)
      constructor
      · rintro ⟨⟩
        exact .missing absent
      · intro unreadable
        cases unreadable with
        | missing => rfl
        | cell own => exact (absent _ own).elim
  | some cell =>
      have own : (field.name, cell) ∈ columns.zip row := (cellNamed?_eq_some_iff distinct).mp named
      constructor
      · intro failed
        exact .cell own (Cell.readCell_eq_error_iff.mp failed)
      · intro unreadable
        cases unreadable with
        | missing absent => exact (absent cell own).elim
        | cell other undecodable =>
            cases named.symm.trans ((cellNamed?_eq_some_iff distinct).mpr other)
            exact Cell.readCell_eq_error_iff.mpr undecodable

end Rows

namespace Table

/-- Whether a row has a value for every field of a table. -/
def Readable (table : Table) (columns : List String) (row : List Cell) : Prop :=
  ∀ field ∈ table.fields, ∃ value, field.Reads columns row value

/-- The error of the first cell that cannot be read: in the first row that is not readable, that of
the first field without a value. -/
inductive Offends (table : Table) (columns : List String) (rows : List (List Cell)) : Error → Prop
  | first {earlier later : List (List Cell)} {row : List Cell} {before after : List Field}
      {field : Field} {fault : DecodeFault} (rowsParts : rows = earlier ++ row :: later)
      (rowsReadable : ∀ row ∈ earlier, table.Readable columns row)
      (parts : table.fields = before ++ field :: after)
      (readable : ∀ field ∈ before, ∃ value, field.Reads columns row value)
      (unreadable : field.Unreadable columns row fault) :
      Offends table columns rows (.decode table.qualifiedName field.name fault)

end Table

namespace Record

variable {table : Table} {columns : List String} {row : List Cell} {rows : List (List Cell)}

/-- The record of a row has what the row has for each field of the table. -/
theorem ofRow_eq_ok_iff_reads (distinct : columns.Nodup) {record : Record} :
    ofRow table columns row = .ok record ↔
      record.table = table ∧ List.Forall₂ (fun field value => field.Reads columns row value)
        table.fields record.values := by
  rw [ofRow_eq_ok_iff, readFields_eq_mapM, mapM_eq_ok_iff]
  simp only [readField_eq_ok_iff distinct]

/-- A row has a record exactly when it has a value for every field. -/
theorem exists_ofRow_iff (distinct : columns.Nodup) :
    (∃ record, ofRow table columns row = .ok record) ↔ table.Readable columns row := by
  simp only [Table.Readable, ← readField_eq_ok_iff distinct table.qualifiedName]
  rw [← exists_mapM_iff, ← readFields_eq_mapM]
  simp only [ofRow_eq_ok_iff]
  constructor
  · rintro ⟨record, -, read⟩
    exact ⟨record.values, read⟩
  · rintro ⟨values, read⟩
    exact ⟨⟨table, values, length_of_readFields read⟩, rfl, read⟩

/-- The error of a row that has no record is that of its first field without a value. -/
theorem ofRow_eq_error_iff (distinct : columns.Nodup) {error : Error} :
    ofRow table columns row = .error error ↔
      ∃ before field after, table.fields = before ++ field :: after ∧
        (∀ earlier ∈ before, ∃ value, earlier.Reads columns row value) ∧
        ∃ fault, field.Unreadable columns row fault ∧
          error = .decode table.qualifiedName field.name fault := by
  simp only [← readField_eq_ok_iff distinct table.qualifiedName,
    ← readField_eq_error_iff distinct]
  rw [ofRow_eq_error_iff_readFields, readFields_eq_mapM, mapM_eq_error_iff]

theorem exists_ofRows_iff (distinct : columns.Nodup) :
    (∃ records, ofRows table columns rows = .ok records) ↔
      ∀ row ∈ rows, table.Readable columns row := by
  simp only [ofRows_eq_mapM, exists_mapM_iff, exists_ofRow_iff distinct]

/-- There is one record for each row, in the order of the rows, with what the row has for each
field. -/
theorem ofRows_eq_ok_iff (distinct : columns.Nodup) {records : List Record} :
    ofRows table columns rows = .ok records ↔
      List.Forall₂ (fun row record => record.table = table ∧
        List.Forall₂ (fun field value => field.Reads columns row value) table.fields record.values)
        rows records := by
  rw [ofRows_eq_mapM, mapM_eq_ok_iff]
  simp only [ofRow_eq_ok_iff_reads distinct]

theorem ofRows_eq_error_iff (distinct : columns.Nodup) {error : Error} :
    ofRows table columns rows = .error error ↔ table.Offends columns rows error := by
  rw [ofRows_eq_mapM, mapM_eq_error_iff]
  simp only [exists_ofRow_iff distinct, ofRow_eq_error_iff distinct]
  constructor
  · rintro ⟨earlier, row, later, rowsParts, rowsReadable, before, field, after, parts, readable,
      fault, unreadable, rfl⟩
    exact .first rowsParts rowsReadable parts readable unreadable
  · rintro ⟨rowsParts, rowsReadable, parts, readable, unreadable⟩
    exact ⟨_, _, _, rowsParts, rowsReadable, _, _, _, parts, readable, _, unreadable, rfl⟩

end Record

/-! ## The order of the columns -/

/-- Two rows with the cells of the declared fields of a table in some order, whatever else there
is. -/
def Table.SameCells (table : Table) (columns others : List String) (row other : List Cell) : Prop :=
  ((columns.zip row).filter fun entry => entry.1 ∈ table.fieldNames).Perm
    ((others.zip other).filter fun entry => entry.1 ∈ table.fieldNames)

/-- Under the name of a declared field both rows have the same cell. -/
theorem cellNamed?_eq_of_sameCells {table : Table} {columns others : List String}
    {row other : List Cell} (distinct : columns.Nodup) (othersDistinct : others.Nodup)
    (same : table.SameCells columns others row other) {field : Field}
    (declared : field ∈ table.fields) :
    cellNamed? columns row field.name = cellNamed? others other field.name := by
  apply Option.ext
  intro cell
  rw [cellNamed?_eq_some_iff distinct, cellNamed?_eq_some_iff othersDistinct]
  have both := same.mem_iff (a := (field.name, cell))
  have named : field.name ∈ table.fieldNames := List.mem_map_of_mem declared
  simpa [named] using both

/-- Rows with the same cells of the declared fields have the same record, or none for the same
reason. -/
theorem Record.ofRow_eq_of_sameCells {table : Table} {columns others : List String}
    {row other : List Cell} (distinct : columns.Nodup) (othersDistinct : others.Nodup)
    (same : table.SameCells columns others row other) :
    ofRow table columns row = ofRow table others other := by
  have fields (fields : List Field) (declared : ∀ field ∈ fields, field ∈ table.fields) :
      readFields table.qualifiedName columns row fields =
        readFields table.qualifiedName others other fields := by
    induction fields with
    | nil => rfl
    | cons field rest ih =>
        rw [List.forall_mem_cons] at declared
        rw [readFields, readFields, readField, readField, ih declared.2,
          cellNamed?_eq_of_sameCells distinct othersDistinct same declared.1]
  rw [ofRow, ofRow, fields table.fields fun _ => id]

theorem Record.ofRows_eq_of_sameCells {table : Table} {columns others : List String}
    {rows otherRows : List (List Cell)} (distinct : columns.Nodup) (othersDistinct : others.Nodup)
    (same : List.Forall₂ (table.SameCells columns others) rows otherRows) :
    ofRows table columns rows = ofRows table others otherRows := by
  induction same with
  | nil => rfl
  | cons first _ ih =>
      rw [ofRows, ofRows, ih, ofRow_eq_of_sameCells distinct othersDistinct first]

/-! ## Queries -/

/-- A query whose statement is answered ends with what is read from the answer. -/
theorem ending_run_query {State : Type} {server : Backend State} {connection : Connection}
    (usable : connection.isUsable = true) {selection : Selection} {state after : State}
    {answer : Answer}
    (answered : server state (.rows (selection.reading connection.environment)) =
      (.answer answer, after)) :
    ((Operation.query selection).run server connection state).ending =
      .result (Record.ofRows selection.table answer.columns answer.rows) := by
  have ends : Dialogue.Ends server (selection.query connection) state
      [.rows (selection.reading connection.environment)]
      (Record.ofRows selection.table answer.columns answer.rows) after := by
    rw [Selection.query, Connection.carry, if_pos usable]
    exact .send answered (.done ..)
  exact congrArg Run.ending ends.run_eq

/-- A query whose statement is answered, under distinct names, gives a record for each row when
every row has a value for every field, and then the values are those of the row in the order of the
fields. Otherwise it gives the error of the first cell that cannot be read and no records. All that
counts of a row are the cells of the declared fields, in whatever order they stand. -/
theorem query_gives_all_rows_or_first_offence {State : Type} {server : Backend State}
    {connection : Connection} (usable : connection.isUsable = true) (selection : Selection)
    {state after : State} {answer : Answer}
    (answered : server state (.rows (selection.reading connection.environment)) =
      (.answer answer, after)) (distinct : answer.columns.Nodup) :
    ((∃ records, ((Operation.query selection).run server connection state).ending =
        .result (.ok records)) ↔
      ∀ row ∈ answer.rows, selection.table.Readable answer.columns row) ∧
    (∀ records, ((Operation.query selection).run server connection state).ending =
        .result (.ok records) ↔
      List.Forall₂ (fun row record => record.table = selection.table ∧
        List.Forall₂ (fun field value => field.Reads answer.columns row value)
          selection.table.fields record.values) answer.rows records) ∧
    ((∃ error, ((Operation.query selection).run server connection state).ending =
        .result (.error error)) ↔
      ¬∀ row ∈ answer.rows, selection.table.Readable answer.columns row) ∧
    (∀ error, ((Operation.query selection).run server connection state).ending =
        .result (.error error) ↔
      selection.table.Offends answer.columns answer.rows error) ∧
    ∀ {OtherState : Type} {other : Backend OtherState} {before next : OtherState}
      {permuted : Answer},
      other before (.rows (selection.reading connection.environment)) = (.answer permuted, next) →
      permuted.columns.Nodup →
      List.Forall₂ (selection.table.SameCells answer.columns permuted.columns) answer.rows
        permuted.rows →
      ((Operation.query selection).run other connection before).ending =
        ((Operation.query selection).run server connection state).ending := by
  have ends (result : Except Error (List Record)) :
      ((Operation.query selection).run server connection state).ending = .result result ↔
        Record.ofRows selection.table answer.columns answer.rows = result := by
    rw [ending_run_query usable answered]
    exact ⟨Ending.result.inj, congrArg Ending.result⟩
  have all : (∃ records, Record.ofRows selection.table answer.columns answer.rows = .ok records) ↔
      ∀ row ∈ answer.rows, selection.table.Readable answer.columns row :=
    Record.exists_ofRows_iff distinct
  have fails : (∃ error, Record.ofRows selection.table answer.columns answer.rows =
      .error error) ↔ ¬∃ records, Record.ofRows selection.table answer.columns answer.rows =
        .ok records := by
    cases Record.ofRows selection.table answer.columns answer.rows <;> simp
  refine ⟨?_, ?_, ?_, ?_, ?_⟩
  · exact (exists_congr fun records => ends (.ok records)).trans all
  · exact fun records => (ends (.ok records)).trans (Record.ofRows_eq_ok_iff distinct)
  · exact (exists_congr fun error => ends (.error error)).trans (fails.trans (not_congr all))
  · exact fun error => (ends (.error error)).trans (Record.ofRows_eq_error_iff distinct)
  · intro OtherState other before next permuted otherAnswered otherDistinct same
    rw [ending_run_query usable answered, ending_run_query usable otherAnswered,
      Record.ofRows_eq_of_sameCells distinct otherDistinct same]

/-- The number of a student. -/
def studentField : Field :=
  { name := "student", type := .long, role := .partitionKey }

/-- The points of a student, between the limits of a byte. -/
def pointsField : Field :=
  { name := "points", type := .byte, role := .nullable }

/-- Points by student. -/
def pointsTable : Table :=
  Declaration.accept
    { tablespace := "main", schema := "main", name := "points"
      fields := [studentField, pointsField] }
    (by decide +kernel)

/-- The points of a student. -/
def pointsRecord (student : Int64) (points : Option Int8) : Record :=
  ⟨pointsTable, [some (.long student), points.map .byte], rfl⟩

/-- The columns of an answer with points, one of them undeclared. -/
def pointsColumns : List String := ["points", "remark", "student"]

/-- An answer with the points of three students, given by the cell of the last. -/
def pointsAnswer (last : Cell) : Answer where
  columns := pointsColumns
  rows := [[.int2 (-128), .null, .int8 1], [.null, .characters "ill", .int8 2],
    [last, .null, .int8 3]]

theorem reads_points (cell : Cell) (points : Option Int8)
    (decodes : cell.Decodes .byte (points.map .byte)) (remark : Cell) (student : Int64) :
    List.Forall₂ (fun field value =>
        field.Reads pointsColumns [cell, remark, .int8 student] value)
      pointsTable.fields (pointsRecord student points).values := by
  constructor
  · exact ⟨.int8 student, by simp [pointsColumns, studentField], .int8 student⟩
  · constructor
    · exact ⟨cell, by simp [pointsColumns, pointsField], decodes⟩
    · constructor

/-- A server that answers everything with its state. -/
def repeating : Backend Answer := fun answer _ => (.answer answer, answer)

theorem points_are_read_up_to_limit :
    ((Operation.query (.all pointsTable)).run repeating (.usable .testing none)
      (pointsAnswer (.int2 127))).ending =
        .result (.ok [pointsRecord 1 (some (-128)), pointsRecord 2 none,
          pointsRecord 3 (some 127)]) ∧
    ((Operation.query (.all pointsTable)).run repeating (.usable .testing none)
      (pointsAnswer (.int2 128))).ending =
        .result (.error (.decode "main.points" "points" (.byteOverflow 128))) := by
  have usable : (Connection.usable .testing none).isUsable = true := rfl
  have distinct : pointsColumns.Nodup := by simp [pointsColumns]
  have answered (last : Cell) : repeating (pointsAnswer last)
      (.rows ((Selection.all pointsTable).reading .testing)) =
        (.answer (pointsAnswer last), pointsAnswer last) := rfl
  have reads (last : Cell) :=
    query_gives_all_rows_or_first_offence usable (.all pointsTable) (answered last) distinct
  have least := reads_points (.int2 (-128)) (some (-128)) (.int2 rfl) .null 1
  have absent := reads_points .null none (.null .byte) (.characters "ill") 2
  constructor
  · apply ((reads (.int2 127)).2.1 _).mpr
    have greatest := reads_points (.int2 127) (some 127) (.int2 rfl) .null 3
    exact .cons ⟨rfl, least⟩ (.cons ⟨rfl, absent⟩ (.cons ⟨rfl, greatest⟩ .nil))
  · apply ((reads (.int2 128)).2.2.2.1 _).mpr
    have rowsParts : (pointsAnswer (.int2 128)).rows =
        [[.int2 (-128), .null, .int8 1], [.null, .characters "ill", .int8 2]] ++
          [.int2 128, .null, .int8 3] :: [] := rfl
    have parts : pointsTable.fields = [studentField] ++ pointsField :: [] := rfl
    have readable {row : List Cell} {record : Record} (own : record.table = pointsTable)
        (read : List.Forall₂ (fun field value => field.Reads pointsColumns row value)
          pointsTable.fields record.values) : pointsTable.Readable pointsColumns row :=
      (Record.exists_ofRow_iff distinct).mp
        ⟨record, (Record.ofRow_eq_ok_iff_reads distinct).mpr ⟨own, read⟩⟩
    have number : ∃ value, studentField.Reads pointsColumns [.int2 128, .null, .int8 3] value :=
      ⟨_, .int8 3, by simp [pointsColumns, studentField], .int8 3⟩
    have outside : (Cell.int2 128).Undecodable .byte (.byteOverflow 128) :=
      .overflow (.inr (by decide))
    have unreadable : pointsField.Unreadable pointsColumns [.int2 128, .null, .int8 3]
        (.byteOverflow 128) :=
      .cell (.head _) outside
    apply Table.Offends.first rowsParts _ parts (List.forall_mem_singleton.mpr number) unreadable
    exact List.forall_mem_cons.mpr
      ⟨readable rfl least, List.forall_mem_singleton.mpr (readable rfl absent)⟩

end TableStore
