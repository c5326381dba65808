import TableStore.Proofs.Validation.Settling
import TableStore.Proofs.Value.Literal

/-!
# Validations under given replies

A validation asks at most four questions about a table. When a server gives the same replies in
every state that it reaches, and answers the remedies of the discrepancies in them, the whole
validation is determined by the replies: what is sent, what is reported and how it ends.
-/

namespace TableStore.Validation

open Server Sql

/-- What the queries of the catalog about a table find. -/
structure Replies where
  schemaThere : Bool
  tableThere : Bool
  columns : List (String × String × String)
  key : List String

/-- The cells that report the name, the type and the nullability of a column. -/
def tripleCells (column : String × String × String) : List Cell :=
  [.characters column.1, .characters column.2.1, .characters column.2.2]

/-- The queries of the catalog about a table. -/
def queriesAbout (name : TableName) : List CatalogQuery :=
  [.schemaExists name.schema, .tableExists name, .columns name, .primaryKey name]

namespace Replies

/-- The rows that answer a query. -/
def rows (replies : Replies) : CatalogQuery → List (List Cell)
  | .schemaExists _ => [[.bool replies.schemaThere]]
  | .tableExists _ => [[.bool replies.tableThere]]
  | .columns _ => replies.columns.map tripleCells
  | .primaryKey _ => replies.key.map fun column => [.characters column]

/-- Whether a server gives the replies about a table in every good state and stays in good
states. -/
def Given {State : Type} (replies : Replies) (server : Backend State) (name : TableName)
    (good : State → Prop) : Prop :=
  ∀ state, good state → ∀ query ∈ queriesAbout name, ∃ answer after,
    server state (.catalog query) = (.answer answer, after) ∧
      answer.rows = replies.rows query ∧ good after

/-- Whether the table is there, which takes its schema. -/
def isPresent (replies : Replies) : Bool :=
  replies.schemaThere && replies.tableThere

variable (replies : Replies) (table : Table) (environment : Environment) (action : Action)

/-- How the schema differs from what is declared. -/
def schemaDiscrepancies : List Discrepancy :=
  if replies.schemaThere then [] else [.schemaMissing]

/-- How the live columns differ from what is declared. -/
def columnsDiscrepancies : List Discrepancy :=
  Validation.columnsDiscrepancies table (replies.columns.map LiveColumn.ofReport)

/-- How the live structure differs from what is declared, in the order in which it is settled. -/
def discrepancies : List Discrepancy :=
  replies.schemaDiscrepancies ++
    if replies.isPresent then
      replies.columnsDiscrepancies table ++ keyDiscrepancies table replies.key
    else [.tableMissing]

/-- The statements that a validation sends. -/
def statements : List Statement :=
  let settled (discrepancies : List Discrepancy) : List Statement :=
    (remedies table environment action discrepancies).map .definition
  let name := table.physical environment
  .catalog (.schemaExists name.schema) :: (settled replies.schemaDiscrepancies ++
    ((if replies.schemaThere then [.catalog (.tableExists name)] else []) ++
      if replies.isPresent then
        .catalog (.columns name) :: (settled (replies.columnsDiscrepancies table) ++
          .catalog (.primaryKey name) :: settled (keyDiscrepancies table replies.key))
      else settled [.tableMissing]))

end Replies

/-! ## Reading the answers -/

theorem truth?_eq {answer : Answer} {truth : Bool} (rows : answer.rows = [[.bool truth]]) :
    answer.truth? = some truth := by
  simp [Answer.truth?, Answer.firstCell?, rows]

theorem triples?_eq {answer : Answer} {columns : List (String × String × String)}
    (rows : answer.rows = columns.map tripleCells) : answer.triples? = some columns := by
  rw [Answer.triples?, rows]
  refine (mapM_map_eq_some (g := id) ?_).trans (by rw [List.map_id])
  exact fun column _ => rfl

theorem texts?_eq {answer : Answer} {texts : List String}
    (rows : answer.rows = texts.map fun text => [.characters text]) :
    answer.texts? = some texts := by
  rw [Answer.texts?, rows]
  refine (mapM_map_eq_some (g := id) ?_).trans (by rw [List.map_id])
  exact fun text _ => rfl

/-! ## Validations -/

variable {State : Type} {server : Backend State} {limit : Option Duration} {table : Table}
  {environment : Environment} {action : Action} {replies : Replies} {good : State → Prop}

theorem settleAll_singleton (connection : Connection) (report : Report)
    (discrepancy : Discrepancy) :
    settleAll connection table action report [discrepancy] =
      settle connection table action report discrepancy := by
  rw [settleAll, settle]
  split <;> rfl

/-- A validation asks for the schema, settles whether it is there, asks for the table and goes on
according to the answer. -/
theorem validate_eq (connection : Connection) (usable : connection.isUsable = true) :
    table.validate connection action =
      (askCatalog connection table
          (.schemaExists (table.physical connection.environment).schema) Answer.truth?).bind
        fun schemaThere =>
          (settleAll connection table action {}
              (if schemaThere then [] else [.schemaMissing])).bind fun report =>
            (askTable connection table schemaThere).bind fun tableThere =>
              if tableThere then validatePresent connection table action report
              else (settleAll connection table action report [.tableMissing]).bind fun report =>
                .done (.ok (report.finish table connection.environment false)) := by
  rw [Table.validate, Connection.carry, if_pos usable]
  simp only [settleAll_singleton]
  rfl

/-- A table that is there is compared column by column, and then its key. -/
theorem validatePresent_eq (connection : Connection) (report : Report) :
    validatePresent connection table action report =
      (askCatalog connection table (.columns (table.physical connection.environment))
          Answer.triples?).bind fun columns =>
        (settleAll connection table action report
            (columnsDiscrepancies table (columns.map LiveColumn.ofReport))).bind fun report =>
          (askCatalog connection table (.primaryKey (table.physical connection.environment))
              Answer.texts?).bind fun key =>
            (settleAll connection table action report (keyDiscrepancies table key)).bind
              fun report =>
                .done (.ok (report.finish table connection.environment true)) :=
  rfl

/-- Asking the catalog of a server that gives the replies. -/
theorem exists_ends_askCatalog {α : Type} (limit : Option Duration)
    (given : replies.Given server (table.physical environment) good) {state : State}
    (initially : good state) (query : CatalogQuery)
    (about : query ∈ queriesAbout (table.physical environment)) {read : Answer → Option α}
    {value : α} (readable : ∀ answer : Answer, answer.rows = replies.rows query →
      read answer = some value) :
    ∃ final, good final ∧
      Dialogue.Ends server (askCatalog (.usable environment limit) table query read) state
        [.catalog query] (.ok value) final := by
  obtain ⟨answer, final, answered, rows, holds⟩ := given state initially query about
  exact ⟨final, holds, Dialogue.ends_ask answered (readable answer rows)⟩

theorem exists_ends_askTable (limit : Option Duration)
    (given : replies.Given server (table.physical environment) good) {state : State}
    (initially : good state) :
    ∃ final, good final ∧
      Dialogue.Ends server (askTable (.usable environment limit) table replies.schemaThere) state
        (if replies.schemaThere then [.catalog (.tableExists (table.physical environment))]
          else [])
        (.ok replies.isPresent) final := by
  unfold askTable Replies.isPresent
  cases replies.schemaThere with
  | false => exact ⟨state, initially, .done ..⟩
  | true =>
      exact exists_ends_askCatalog limit given initially
        (.tableExists (table.physical environment)) (by simp [queriesAbout])
        fun answer rows => truth?_eq rows

theorem exists_ends_validatePresent (limit : Option Duration)
    (given : replies.Given server (table.physical environment) good) (report : Report)
    {state : State} (initially : good state)
    (answeredColumns : Answered server good
      (remedies table environment action (replies.columnsDiscrepancies table)))
    (answeredKey : Answered server good
      (remedies table environment action (keyDiscrepancies table replies.key))) :
    ∃ final, good final ∧
      Dialogue.Ends server (validatePresent (.usable environment limit) table action report) state
        (.catalog (.columns (table.physical environment)) ::
          ((remedies table environment action (replies.columnsDiscrepancies table)).map
              .definition ++
            .catalog (.primaryKey (table.physical environment)) ::
              (remedies table environment action (keyDiscrepancies table replies.key)).map
                .definition))
        (.ok ((report.settled table environment action
          (replies.columnsDiscrepancies table ++ keyDiscrepancies table replies.key)).finish table
            environment true)) final := by
  obtain ⟨s₁, good₁, askedColumns⟩ := exists_ends_askCatalog limit given initially
    (.columns (table.physical environment)) (by simp [queriesAbout])
    fun answer rows => triples?_eq rows
  obtain ⟨s₂, good₂, settledColumns⟩ := exists_ends_settleAll limit report good₁ answeredColumns
  obtain ⟨s₃, good₃, askedKey⟩ := exists_ends_askCatalog limit given good₂
    (.primaryKey (table.physical environment)) (by simp [queriesAbout])
    fun answer rows => texts?_eq rows
  obtain ⟨s₄, good₄, settledKey⟩ := exists_ends_settleAll limit _ good₃ answeredKey
  refine ⟨s₄, good₄, ?_⟩
  rw [validatePresent_eq, ← Report.settled_append]
  exact askedColumns.bind (settledColumns.bind (askedKey.bind (settledKey.finish _)))

/-- A validation whose questions get the replies and whose remedies are answered. -/
theorem exists_ends_validate (limit : Option Duration)
    (given : replies.Given server (table.physical environment) good) {state : State}
    (initially : good state)
    (answered : Answered server good
      (remedies table environment action (replies.discrepancies table))) :
    ∃ final, good final ∧
      Dialogue.Ends server (table.validate (.usable environment limit) action) state
        (replies.statements table environment action)
        (.ok ((Report.settled table environment action {}
          (replies.discrepancies table)).finish table environment replies.isPresent)) final := by
  rw [Replies.discrepancies, remedies_append] at answered
  have answeredSchema : Answered server good
      (remedies table environment action replies.schemaDiscrepancies) :=
    fun definition member => answered definition (List.mem_append_left _ member)
  have answeredTable := fun definition member =>
    answered definition (List.mem_append_right _ member)
  obtain ⟨s₁, good₁, askedSchema⟩ := exists_ends_askCatalog limit given initially
    (.schemaExists (table.physical environment).schema) (by simp [queriesAbout])
    fun answer rows => truth?_eq rows
  obtain ⟨s₂, good₂, settledSchema⟩ := exists_ends_settleAll limit {} good₁ answeredSchema
  obtain ⟨s₃, good₃, askedTable⟩ := exists_ends_askTable limit given good₂
  rw [validate_eq _ rfl, Replies.statements, Replies.discrepancies, ← Report.settled_append]
  cases present : replies.isPresent with
  | true =>
      rw [present, if_pos rfl, remedies_append] at answeredTable
      obtain ⟨s₄, good₄, validated⟩ := exists_ends_validatePresent limit given
        (Report.settled table environment action {} replies.schemaDiscrepancies) good₃
        (fun definition member => answeredTable definition (List.mem_append_left _ member))
        (fun definition member => answeredTable definition (List.mem_append_right _ member))
      rw [present] at askedTable
      exact ⟨s₄, good₄, askedSchema.bind (settledSchema.bind (askedTable.bind validated))⟩
  | false =>
      rw [present, if_neg Bool.false_ne_true] at answeredTable
      obtain ⟨s₄, good₄, settledTable⟩ := exists_ends_settleAll limit
        (Report.settled table environment action {} replies.schemaDiscrepancies) good₃
        answeredTable
      rw [present] at askedTable
      exact ⟨s₄, good₄,
        askedSchema.bind (settledSchema.bind (askedTable.bind (settledTable.finish _)))⟩

end TableStore.Validation
