import TableStore.Operation.Rows
import TableStore.Proofs.Selection.Restriction
import TableStore.Proofs.Server.Sending
import TableStore.Proofs.Sql.Statement
import TableStore.Proofs.Updates
import TableStore.School.Reference

/-!
# Insertions and updates read back

What a server reads in the statement of an insertion or an update is the data that was given: one
row for each record with one constant for each column, and one assignment for each field that
changes. A constant is null only where nothing was given, so no value is ever lost on the way.
-/

namespace TableStore

open Server Sql

/-- Whether a constant stands for an optional value in the column of a field; null stands for
nothing and for nothing else. -/
def Sql.Literal.Holds (literal : Literal) (entry : Field × Option Value) : Prop :=
  literal.cell? entry.1.type = some (entry.2.map Value.canonical) ∧
    (literal = .null ↔ entry.2 = none)

/-- Whether a row of constants has the values of a record under the columns of a table. -/
def Table.Holds (table : Table) (row : List Literal) (record : Record) : Prop :=
  row.length = table.fieldCount ∧
    List.Forall₂ Literal.Holds row (table.fields.zip record.values)

theorem Field.isStorable_literal {field : Field} {value : Option Value}
    (storable : ∀ v ∈ value, v.storageIssue? = none) : (field.literal value).IsStorable := by
  cases value with
  | none => trivial
  | some v =>
      rw [literal]
      split
      · exact v.isStorable_literal (storable v rfl)
      · trivial

namespace Record

variable {table declared : Table} {record : Record} {values : List (Option Value)}

/-- The row of a record that was built has its values again. -/
theorem holds_row (built : build declared values = .ok record)
    (same : record.table.sameAs table = true) :
    table.Holds ((table.row record).map Literal.canonical) record := by
  constructor
  · rw [List.length_map, Table.row, List.length_map, Table.fieldCount]
  · rw [row_eq same, List.map_map, List.forall₂_map_left_iff, List.forall₂_same]
    intro entry member
    apply entry.1.cell?_literal
    intro v held
    exact (typed_of_build built same entry member v held).1

theorem isStorable_row (built : build declared values = .ok record)
    (same : record.table.sameAs table = true) :
    ∀ literal ∈ table.row record, literal.IsStorable := by
  rw [row_eq same]
  intro literal member
  obtain ⟨entry, entryMem, rfl⟩ := List.mem_map.mp member
  exact Field.isStorable_literal fun v held => (typed_of_build built same entry entryMem v held).2

end Record

namespace Table

variable {table : Table} {records : List Record}

/-- The insertion of records that were built is read with one row for each record. -/
theorem readAll?_insertion (environment : Environment) (nonempty : records ≠ [])
    (built : ∀ record ∈ records, ∃ declared values, Record.build declared values = .ok record)
    (same : ∀ record ∈ records, record.table.sameAs table = true) :
    ∃ statement, table.insertion? environment records = some statement ∧
      readAll? readCommand statement.tokens =
        some (.insert (table.physical environment) table.fieldNames
          (records.map fun record => (table.row record).map Literal.canonical)) := by
  refine ⟨.insert (table.physical environment) table.fieldNames (records.map table.row), ?_, ?_⟩
  · cases records with
    | nil => exact absurd rfl nonempty
    | cons => rfl
  · rw [readAll?_rowStatement]
    · rw [RowStatement.command, List.map_map]
      rfl
    · refine ⟨table.fieldNames_ne_nil, by simpa using nonempty, fun row member => ?_⟩
      obtain ⟨record, recordMem, rfl⟩ := List.mem_map.mp member
      obtain ⟨declared, values, made⟩ := built record recordMem
      refine ⟨by simpa [row] using table.fields_ne_nil, ?_⟩
      exact Record.isStorable_row made (same record recordMem)

theorem foreignRecord?_eq_none (same : ∀ record ∈ records, record.table.sameAs table = true) :
    table.foreignRecord? records = none := by
  simpa [foreignRecord?] using same

end Table

namespace Updates

variable {updates : Updates} {given : List Assignment} {declared : Table}

theorem isStorable_assignments (built : build declared given = .ok updates) :
    ∀ assignment ∈ updates.assignments, assignment.2.IsStorable := by
  intro assignment member
  obtain ⟨⟨field, value⟩, changeMem, rfl⟩ := List.mem_map.mp member
  exact Field.isStorable_literal fun v set => (typed_of_mem_changes built changeMem v set).2

/-- An update that was built is read with one assignment for each field that changes. -/
theorem readAll?_statement (selection : Selection) (environment : Environment)
    (built : build declared given = .ok updates) :
    readAll? readCommand (updates.statement selection environment).tokens =
      some (.update (selection.table.physical environment) updates.readAssignments
        selection.conjuncts) := by
  rw [statement, readAll?_rowStatement]
  · rfl
  · refine ⟨?_, isStorable_assignments built, selection.isReadable_conditions⟩
    simpa [assignments] using changes_ne_nil_of_build built

/-- What a built update does to the columns of a table that is the same. -/
theorem isDoneBy_of_sameAs (built : build declared given = .ok updates) {table : Table}
    (same : updates.table.sameAs table = true) {field : Field} {update : FieldUpdate}
    (member : (field, update) ∈ table.fields.zip updates.updates) :
    update.IsDoneBy updates.readAssignments field := by
  obtain ⟨own, ownMem, outline⟩ := Table.exists_mem_zip_of_sameAs same member
  have done := isDoneBy_readAssignments
    (fun field value set => (typed_of_build built field value set).1) ownMem
  obtain ⟨sameName, sameRest⟩ := Prod.mk.inj outline
  have sameType : own.type = field.type := (Prod.mk.inj sameRest).1
  cases update <;> simpa only [FieldUpdate.IsDoneBy, sameName, sameType] using done

end Updates

/-- Whether what was sent is one statement in which a server reads the insertion of records into
a table: its columns in order and a row for each record. -/
def Table.Inserts (table : Table) (environment : Environment) (records : List Record)
    (sent : List Statement) : Prop :=
  ∃ statement tokens rows,
    sent = [statement] ∧
    tokenize statement.text.toList = some tokens ∧
    readAll? readCommand tokens =
      some (.insert (table.physical environment) table.fieldNames rows) ∧
    List.Forall₂ table.Holds rows records

/-- Whether what was sent is one statement in which a server reads an update of the selected
rows: the fields that change in order of the columns, each once with its new value, and no other
field. -/
def Updates.Changes (updates : Updates) (selection : Selection) (environment : Environment)
    (sent : List Statement) : Prop :=
  ∃ statement tokens assignments,
    sent = [statement] ∧
    tokenize statement.text.toList = some tokens ∧
    readAll? readCommand tokens =
      some (.update (selection.table.physical environment) assignments selection.conjuncts) ∧
    assignments ≠ [] ∧
    (assignments.map Prod.fst).Sublist selection.table.fieldNames ∧
    (assignments.map Prod.fst).Nodup ∧
    ∀ field update, (field, update) ∈ selection.table.fields.zip updates.updates →
      update.IsDoneBy assignments field

/-- Inserting records that were built sends exactly their values, and applying an update that was
built sends exactly its changes, whatever the server answers. -/
theorem changes_read_back (environment : Environment) (limit : Option Duration) {State : Type}
    (server : Backend State) (faults : Faults) (state : State) :
    (∀ (table : Table) (records : List Record), records ≠ [] →
      (∀ record ∈ records, ∃ declared values, Record.build declared values = .ok record) →
      (∀ record ∈ records, record.table.sameAs table = true) →
      table.Inserts environment records
        ((table.insert (.usable environment limit) records).run server faults state).statements) ∧
    ∀ (updates : Updates) (selection : Selection),
      (∃ declared given, Updates.build declared given = .ok updates) →
      updates.table.sameAs selection.table = true →
      updates.Changes selection environment
        ((updates.apply (.usable environment limit) selection).run server faults
          state).statements := by
  constructor
  · intro table records nonempty built same
    obtain ⟨statement, inserted, read⟩ :=
      table.readAll?_insertion environment nonempty built same
    refine ⟨.rows statement, _, _, ?_, spells_rowStatement statement, read, ?_⟩
    · rw [Table.insert, Table.foreignRecord?_eq_none same]
      simp only [Connection.carry, Connection.isUsable, Connection.environment, inserted, if_true]
      exact statements_run_send ..
    · rw [List.forall₂_map_left_iff, List.forall₂_same]
      intro record member
      obtain ⟨declared, values, made⟩ := built record member
      exact Record.holds_row made (same record member)
  · rintro updates selection ⟨declared, given, built⟩ same
    have names : (updates.readAssignments.map Prod.fst).Sublist selection.table.fieldNames := by
      rw [Updates.map_fst_readAssignments, ← Table.fieldNames_of_sameAs same]
      exact updates.changes_sublist
    refine ⟨.rows (updates.statement selection environment), _, _, ?_,
      spells_rowStatement _, Updates.readAll?_statement selection environment built, ?_, names,
      names.nodup selection.table.nodup_fieldNames, fun field update member => ?_⟩
    · rw [Updates.apply, if_pos same]
      exact statements_run_send ..
    · simpa [Updates.readAssignments, Updates.assignments] using
        Updates.changes_ne_nil_of_build built
    · exact Updates.isDoneBy_of_sameAs built same member

/-- A city whose name would end its row, were it not quoted, and a hold that is shown for ever. -/
theorem changes_read_back_hostile_city :
    ∃ record updates,
      Record.build School.zipCode
        [some (.string "80523"), some (.string "O'Fallon'), ('"), some (.string "CO")] =
          .ok record ∧
      Updates.build School.holdType
        [("times_to_display", none), ("severity", some (.string "N"))] = .ok updates ∧
      School.zipCode.Inserts .testing [record]
        ((School.zipCode.insert (.usable .testing none) [record]).run (fun _ _ => (.failure, ()))
          (Connection.faults (.usable .testing none) School.zipCode) ()).statements ∧
      updates.Changes (.all School.holdType) .testing
        ((updates.apply (.usable .testing none) (.all School.holdType)).run
          (fun _ _ => (.failure, ()))
          (Connection.faults (.usable .testing none) School.zipCode) ()).statements := by
  have changes := changes_read_back .testing none (fun _ _ => (.failure, ()))
    (Connection.faults (.usable .testing none) School.zipCode) ()
  refine ⟨_, _, rfl, rfl, changes.1 School.zipCode _ (by simp) ?_ ?_,
    changes.2 _ (.all School.holdType) ⟨School.holdType,
      [("times_to_display", none), ("severity", some (.string "N"))], rfl⟩ (by decide +kernel)⟩
  · intro record member
    rw [List.mem_singleton.mp member]
    exact ⟨School.zipCode,
      [some (.string "80523"), some (.string "O'Fallon'), ('"), some (.string "CO")], rfl⟩
  · intro record member
    rw [List.mem_singleton.mp member]
    decide +kernel

end TableStore
