import TableStore.Proofs.Field
import TableStore.Proofs.Operation.Basic
import TableStore.Proofs.Operation.Changes
import TableStore.Proofs.Operation.Row

/-!
# Copying rows

A record at hand was either built or read from a server. Building checks every value against its
field, and reading only makes sure that a value has the type of its field.

An insertion renders the values of its records as they are. So what it sends has passed the checks
exactly when each record could have been built, which a record that was read need not be.
-/

namespace TableStore

open Server Sql

/-- A dialogue of one statement ends with what is made of the answer. -/
theorem Server.Dialogue.exists_finish_of_ends {State α : Type} {server : Backend State}
    {statement : Statement} {finish : Answer → Except Error α} {state final : State}
    {sent : List Statement} {result : Except Error α}
    (ends : Ends server (.send statement fun answer => .done (finish answer)) state sent result
      final) : ∃ answer, result = finish answer := by
  cases ends with
  | send _ rest =>
      cases rest
      exact ⟨_, rfl⟩

namespace Record

/-- Whether a record can be had: by building it, or from a query of a server. -/
inductive AtHand : Record → Prop
  | built {table : Table} {values : List (Option Value)} {record : Record}
      (made : build table values = .ok record) : AtHand record
  | read {State : Type} {server : Backend State} {connection : Connection} {selection : Selection}
      {state : State} {records : List Record} {record : Record}
      (answered : ((Operation.query selection).run server connection state).ending =
        .result (.ok records))
      (member : record ∈ records) : AtHand record

/-- A record could have been built exactly when every value suits its field. -/
theorem exists_build_eq_ok_iff {record : Record} :
    (∃ declared values, build declared values = .ok record) ↔
      ∀ entry ∈ record.entries, entry.1.error? entry.2 = none := by
  constructor
  · rintro ⟨declared, values, made⟩
    exact (suits_of_build made).2
  · intro suits
    exact ⟨record.table, record.values, checked_eq_ok_iff.mpr
      ⟨record.aligned.le, rfl, (fill_eq_self record.aligned).symm, suits⟩⟩

/-- The records that a query gives are those of the rows that the server answered. -/
theorem exists_ofRows_of_query {State : Type} {server : Backend State} {connection : Connection}
    {selection : Selection} {state : State} {records : List Record}
    (answered : ((Operation.query selection).run server connection state).ending =
      .result (.ok records)) :
    ∃ columns rows, ofRows selection.table columns rows = .ok records := by
  obtain ⟨sent, final, ends⟩ : ∃ sent final, Dialogue.Ends server
      (selection.query connection) state sent (.ok records) final :=
    ⟨_, _, Dialogue.ends_of_ending answered⟩
  unfold Selection.query Connection.carry at ends
  split at ends
  · obtain ⟨answer, given⟩ := Dialogue.exists_finish_of_ends ends
    exact ⟨answer.columns, answer.rows, given.symm⟩
  · cases ends

/-- The values of a record at hand have the types of their fields. -/
theorem AtHand.isTyped {record : Record} (atHand : record.AtHand) : record.IsTyped := by
  cases atHand with
  | built made =>
      intro entry member v held
      exact (Field.typed_of_error?_eq_none ((suits_of_build made).2 entry member) v held).1
  | read answered member =>
      obtain ⟨columns, rows, given⟩ := exists_ofRows_of_query answered
      exact isTyped_of_ofRows given _ member

end Record

namespace Table

variable {table : Table} {records : List Record}

/-- The statement that an insertion of records of a table sends. -/
theorem statements_run_insert {State : Type} (server : Backend State) {connection : Connection}
    (usable : connection.isUsable = true) (nonempty : records ≠ [])
    (same : ∀ record ∈ records, record.table.sameAs table = true) (state : State) :
    ((Operation.insert table records).run server connection state).statements =
      [.rows (.insert (table.physical connection.environment) table.fieldNames
        (records.map fun record =>
          (table.fields.zip record.values).map fun entry => entry.1.literal entry.2))] := by
  have rendered : records.map table.row = records.map fun record =>
      (table.fields.zip record.values).map fun entry => entry.1.literal entry.2 :=
    List.map_congr_left fun record member => Record.row_eq (same record member)
  have inserted : table.insertion? connection.environment records =
      some (.insert (table.physical connection.environment) table.fieldNames
        (records.map table.row)) := by
    cases records with
    | nil => contradiction
    | cons record records => rfl
  rw [← rendered]
  simp only [Operation.run, Operation.dialogue, Table.insert, foreignRecord?_eq_none same,
    Connection.carry, usable, inserted, if_true]
  exact statements_run_send ..

/-- The values of a record at hand have the types of the columns. -/
theorem types_of_atHand {record : Record} (atHand : record.AtHand)
    (same : record.table.sameAs table = true) :
    ∀ entry ∈ table.fields.zip record.values, ∀ v ∈ entry.2, v.type = entry.1.type :=
  forall_mem_zip_of_sameAs same
    (fun (type : ValueType) (value : Option Value) => ∀ v ∈ value, v.type = type) atHand.isTyped

end Table

/-- Inserting records at hand sends their values in one statement, each under the column of its
field and of the type of the column. They have all passed the checks of their fields exactly when
each of the records could have been built. -/
theorem inserted_values_checked_iff {State : Type} (server : Backend State)
    (connection : Connection) (usable : connection.isUsable = true) {table : Table}
    {records : List Record} (nonempty : records ≠ []) (atHand : ∀ record ∈ records, record.AtHand)
    (same : ∀ record ∈ records, record.table.sameAs table = true) (state : State) :
    ((Operation.insert table records).run server connection state).statements =
        [.rows (.insert (table.physical connection.environment) table.fieldNames
          (records.map fun record =>
            (table.fields.zip record.values).map fun entry => entry.1.literal entry.2))] ∧
      (∀ record ∈ records, ∀ entry ∈ table.fields.zip record.values, ∀ v ∈ entry.2,
        v.type = entry.1.type) ∧
      ((∀ record ∈ records, ∀ entry ∈ table.fields.zip record.values,
          entry.1.error? entry.2 = none) ↔
        ∀ record ∈ records, ∃ declared values, Record.build declared values = .ok record) := by
  refine ⟨Table.statements_run_insert server usable nonempty same state,
    fun record member => Table.types_of_atHand (atHand record member) (same record member), ?_⟩
  apply forall₂_congr
  intro record member
  rw [Record.exists_build_eq_ok_iff, ← Table.suits_iff_of_sameAs (same record member)]
  rfl

/-- A server that answers every statement with a postal code that is too short and has no city. -/
def Server.cityless : Backend Unit := fun _ _ =>
  (.answer
    { columns := ["zip_code", "city", "state"]
      rows := [[.characters "123", .null, .characters "CO"]] }, ())

/-- A postal code that was built is inserted together with one that was read. -/
theorem inserted_values_checked_iff_towns :
    ∃ town copy : Record,
      Record.build School.zipCode
        [some (.string "80523"), some (.string "Fort Collins"), some (.string "CO")] = .ok town ∧
      ((Operation.query (.all School.zipCode)).run cityless (.usable .development none)
        ()).ending = .result (.ok [copy]) ∧
      ((∀ record ∈ [town, copy], ∀ entry ∈ School.zipCode.fields.zip record.values,
          entry.1.error? entry.2 = none) ↔
        ∀ record ∈ [town, copy], ∃ declared values, Record.build declared values = .ok record) := by
  refine ⟨_, _, rfl, rfl, (inserted_values_checked_iff cityless (.usable .testing none) rfl
    (List.cons_ne_nil _ _) ?_ (by decide +kernel) ()).2.2⟩
  simp only [List.forall_mem_cons]
  refine ⟨@Record.AtHand.built School.zipCode [some (.string "80523"),
    some (.string "Fort Collins"), some (.string "CO")] _ rfl, ?_, by simp⟩
  exact @Record.AtHand.read Unit cityless (.usable .development none) (.all School.zipCode) () [_]
    _ rfl List.mem_cons_self

/-- A postal code that is too short and has no city is read in development and inserted in
testing. -/
theorem cityless_row_is_inserted :
    ∃ records : List Record,
      ((Operation.query (.all School.zipCode)).run cityless (.usable .development none)
        ()).ending = .result (.ok records) ∧
      (((Operation.insert School.zipCode records).run cityless (.usable .testing none)
        ()).statements.map Statement.text) =
          ["INSERT INTO \"main_t\".\"zip_code\" (\"zip_code\", \"city\", \"state\") " ++
            "VALUES (E'123', NULL, E'CO')"] ∧
      ∃ record ∈ records, ∃ entry ∈ School.zipCode.fields.zip record.values,
        entry.1.error? entry.2 ≠ none := by
  refine ⟨_, rfl, ?_, ?_⟩
  · decide +kernel
  · exact ⟨_, List.mem_cons_self, _, List.mem_cons_self, by decide⟩

end TableStore
