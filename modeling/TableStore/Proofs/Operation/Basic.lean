import TableStore.Operation.Rows
import TableStore.Proofs.Server.Sending
import TableStore.Proofs.Statement.Place

/-!
# Operations

An operation counts, reads, deletes, updates or inserts rows of a table, or validates the table.
Each is a dialogue over a connection, and operations can be run one after another against a
server that keeps its state.

Whatever a server answers, an operation sends only statements that are issued for its table in
the environment of its connection.
-/

namespace TableStore

open Server Sql Validation

/-- An operation with its arguments. -/
inductive Operation where
  | count (selection : Selection)
  | query (selection : Selection)
  | delete (selection : Selection)
  | update (updates : Updates) (selection : Selection)
  | insert (table : Table) (records : List Record)
  | validate (table : Table) (action : Action)

namespace Operation

/-- The table that an operation is about. -/
def table : Operation → Table
  | .count selection | .query selection | .delete selection | .update _ selection =>
      selection.table
  | .insert table _ | .validate table _ => table

/-- What an operation gives. -/
def Result : Operation → Type
  | .query _ => List Record
  | .validate _ _ => TableStatus
  | .count _ | .delete _ | .update _ _ | .insert _ _ => Nat

/-- The dialogue of an operation over a connection. -/
def dialogue (connection : Connection) : (operation : Operation) → Dialogue operation.Result
  | .count selection => selection.count connection
  | .query selection => selection.query connection
  | .delete selection => selection.delete connection
  | .update updates selection => updates.apply connection selection
  | .insert table records => table.insert connection records
  | .validate table action => table.validate connection action

/-- Run an operation over a connection. -/
def run {State : Type} (server : Backend State) (connection : Connection) (operation : Operation)
    (state : State) : Run State operation.Result :=
  (operation.dialogue connection).run server (connection.faults operation.table) state

end Operation

/-! ## What an operation sends -/

namespace Validation

/-- The field that a discrepancy is about, if it is about one. -/
def Discrepancy.field? : Discrepancy → Option Field
  | .columnMissing field | .wrongType field _ | .wrongNullability field => some field
  | .schemaMissing | .tableMissing | .wrongKey _ => none

variable {table : Table} {action : Action}

/-- The columns that differ are those of fields of the table. -/
theorem mem_fields_of_columnsDiscrepancies {columns : List LiveColumn} :
    ∀ discrepancy ∈ columnsDiscrepancies table columns,
      ∀ field ∈ discrepancy.field?, field ∈ table.fields := by
  intro discrepancy member field about
  obtain ⟨declared, declaredMem, differs⟩ := List.mem_flatMap.mp member
  have same : discrepancy.field? = some declared := by
    cases live : liveColumn? columns declared.name with
    | none =>
        rw [live] at differs
        rw [List.mem_singleton.mp differs]
        rfl
    | some column =>
        rw [live, columnDiscrepancies, List.mem_append] at differs
        rcases differs with type | nullability
        · split at type
          · cases type
          · rw [List.mem_singleton.mp type]
            rfl
        · split at nullability
          · cases nullability
          · rw [List.mem_singleton.mp nullability]
            rfl
  rw [same] at about
  cases about
  exact declaredMem

/-- The remedy of a discrepancy is issued for the table. -/
theorem issues_of_remedy? {environment : Environment} {discrepancy : Discrepancy}
    {definition : Definition} (own : ∀ field ∈ discrepancy.field?, field ∈ table.fields)
    (remedy : discrepancy.remedy? table environment action = some definition) :
    table.Issues environment (.definition definition) := by
  cases discrepancy with
  | schemaMissing =>
      obtain ⟨-, ⟨⟩⟩ := Option.ite_none_right_eq_some.mp remedy
      exact .schemaCreation
  | tableMissing =>
      obtain ⟨-, ⟨⟩⟩ := Option.ite_none_right_eq_some.mp remedy
      exact .creation
  | columnMissing field =>
      obtain ⟨-, ⟨⟩⟩ := Option.ite_none_right_eq_some.mp remedy
      exact .columnAddition (own field rfl)
  | wrongType field live =>
      obtain ⟨-, ⟨⟩⟩ := Option.ite_none_right_eq_some.mp remedy
      exact .typeAlteration (own field rfl)
  | wrongNullability field =>
      obtain ⟨-, ⟨⟩⟩ := Option.ite_none_right_eq_some.mp remedy
      exact .nullabilityAlteration (own field rfl)
  | wrongKey live =>
      obtain ⟨-, ⟨⟩⟩ := Option.ite_none_right_eq_some.mp remedy
      exact .keyAddition

variable (connection : Connection)

theorem sends_settle {discrepancy : Discrepancy} (report : Report)
    (own : ∀ field ∈ discrepancy.field?, field ∈ table.fields) :
    (settle connection table action report discrepancy).Sends
      (table.Issues connection.environment) := by
  unfold settle
  cases remedy : discrepancy.remedy? table connection.environment action with
  | none => trivial
  | some definition => exact Dialogue.sends_single (issues_of_remedy? own remedy) _

/-- Settling sends remedies only. -/
theorem sends_settleAll {discrepancies : List Discrepancy} (report : Report)
    (own : ∀ discrepancy ∈ discrepancies, ∀ field ∈ discrepancy.field?, field ∈ table.fields) :
    (settleAll connection table action report discrepancies).Sends
      (table.Issues connection.environment) := by
  induction discrepancies generalizing report with
  | nil => trivial
  | cons discrepancy rest ih =>
      rw [List.forall_mem_cons] at own
      exact (sends_settle connection report own.1).bind fun report => ih report own.2

theorem sends_askCatalog {α : Type} {query : CatalogQuery}
    (about : query ∈ queriesAbout (table.physical connection.environment))
    (read : Answer → Option α) :
    (askCatalog connection table query read).Sends (table.Issues connection.environment) :=
  connection.sends_ask table (.catalog about) read

theorem sends_validatePresent (report : Report) :
    (validatePresent connection table action report).Sends
      (table.Issues connection.environment) := by
  rw [validatePresent_eq]
  apply (sends_askCatalog connection (by simp [queriesAbout]) _).bind
  intro columns
  apply (sends_settleAll connection report mem_fields_of_columnsDiscrepancies).bind
  intro report
  apply (sends_askCatalog connection (by simp [queriesAbout]) _).bind
  intro key
  have keyOnly : ∀ discrepancy ∈ keyDiscrepancies table key,
      ∀ field ∈ discrepancy.field?, field ∈ table.fields := by
    unfold keyDiscrepancies
    split <;> simp [Discrepancy.field?]
  exact (sends_settleAll connection report keyOnly).bind fun report => trivial

/-- A validation sends only what is issued for the table. -/
theorem sends_validate :
    (table.validate connection action).Sends (table.Issues connection.environment) := by
  apply connection.sends_carry
  apply (sends_askCatalog connection (by simp [queriesAbout]) _).bind
  intro schemaThere
  have schemaOnly : ∀ discrepancy ∈ (if schemaThere then [] else [Discrepancy.schemaMissing]),
      ∀ field ∈ discrepancy.field?, field ∈ table.fields := by
    split <;> simp [Discrepancy.field?]
  apply (sends_settleAll connection {} schemaOnly).bind
  intro report
  have asks : (askTable connection table schemaThere).Sends
      (table.Issues connection.environment) := by
    unfold askTable
    split
    · exact sends_askCatalog connection (by simp [queriesAbout]) _
    · trivial
  apply asks.bind
  intro tableThere
  split
  · exact sends_validatePresent connection report
  · exact (sends_settle connection report (by simp [Discrepancy.field?])).bind
      fun report => trivial

end Validation

namespace Operation

/-- An operation sends only what is issued for its table. -/
theorem sends_dialogue (connection : Connection) (operation : Operation) :
    (operation.dialogue connection).Sends (operation.table.Issues connection.environment) := by
  cases operation with
  | count selection =>
      apply connection.sends_carry
      exact (connection.sends_ask _ (.counting rfl) _).bind fun count => trivial
  | query selection => exact connection.sends_carry (Dialogue.sends_single (.reading rfl) _)
  | delete selection => exact connection.sends_carry (Dialogue.sends_single (.deletion rfl) _)
  | update updates selection =>
      simp only [dialogue, Updates.apply]
      split
      · exact connection.sends_carry (Dialogue.sends_single (.update updates rfl) _)
      · trivial
  | insert table records =>
      simp only [dialogue, Table.insert]
      split
      · trivial
      · apply connection.sends_carry
        split
        · trivial
        · rename_i made
          exact Dialogue.sends_single (.insertion made) _
  | validate table action => exact sends_validate connection

variable {State : Type} (server : Backend State) (connection : Connection)

/-- Every statement of a run of an operation is issued for its table. -/
theorem issues_of_mem_run (operation : Operation) (state : State) :
    ∀ statement ∈ (operation.run server connection state).statements,
      operation.table.Issues connection.environment statement :=
  (operation.sends_dialogue connection).statements server _ state

end Operation

end TableStore
