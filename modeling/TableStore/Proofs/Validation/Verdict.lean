import TableStore.Proofs.Operation.Interruption
import TableStore.Proofs.Server.Exchange
import TableStore.Proofs.Validation.Accounting

/-!
# The verdict of a validation

The status and the validity of a report follow from three things: what stayed, what was done, and
whether the table was there before. The first two are what the action makes of the discrepancies
that the answers show. The third is what the answers say, and it is never guessed: every way
through a validation settles it before the report is made.

A table that was not there has no other discrepancy than that it, and perhaps its schema, is
missing, and an action that builds removes both. So a validation that may build never finds in the
end that there is no table.
-/

namespace TableStore.Validation

open Server Sql

/-- Whether the catalog was asked for the schema and the table of a place and said yes to both. -/
def IsFound (place : TableName) (exchanges : List Exchange) : Prop :=
  IsAffirmed (.schemaExists place.schema) exchanges ∧ IsAffirmed (.tableExists place) exchanges

/-- Whether a status describes a validation of a place by an action, before which the table was
there or not. -/
structure IsConsistent (status : TableStatus) (place : TableName) (environment : Environment)
    (action : Action) (wasThere : Prop) : Prop where
  invalid : status.result.status = .invalid ↔ status.result.errors ≠ []
  valid : status.validity = .valid ↔
    status.result.errors = [] ∧ status.result.actionsTaken = []
  validAfterChanges : status.validity = .validAfterChanges ↔
    status.result.errors = [] ∧ status.result.actionsTaken ≠ []
  presentAndInvalid : status.validity = .presentAndInvalid ↔
    status.result.errors ≠ [] ∧ wasThere
  notPresent : status.validity = .notPresent ↔ action = .checkOnly ∧ ¬wasThere
  unchanged : action = .checkOnly → status.result.actionsTaken = []
  physicalTable : status.physicalTable = place.schema ++ "." ++ place.table
  environment : status.environment = environment

/-! ## What the answers tell -/

/-- Whether what was answered so far says yes to the schema of a place, and yes to its table. -/
structure Answers (place : TableName) (schemaThere tableThere : Bool) (known : List Exchange) :
    Prop where
  schema : IsAffirmed (.schemaExists place.schema) known ↔ schemaThere = true
  table : IsAffirmed (.tableExists place) known ↔ tableThere = true

namespace Answers

variable {place : TableName} {schemaThere tableThere : Bool} {known : List Exchange}

theorem nil : Answers place false false [] where
  schema := by simp [not_isAffirmed_nil]
  table := by simp [not_isAffirmed_nil]

/-- Other statements do not change what is known. -/
theorem append (answers : Answers place schemaThere tableThere known) {statement : Statement}
    (notSchema : statement ≠ .catalog (.schemaExists place.schema))
    (notTable : statement ≠ .catalog (.tableExists place)) (answer : Answer) :
    Answers place schemaThere tableThere (known ++ [(statement, .answer answer)]) where
  schema := by simp [isAffirmed_append, notSchema, answers.schema]
  table := by simp [isAffirmed_append, notTable, answers.table]

theorem append_schema (answers : Answers place false tableThere known) {answer : Answer}
    (truth : answer.truth? = some schemaThere) :
    Answers place schemaThere tableThere
      (known ++ [(.catalog (.schemaExists place.schema), .answer answer)]) where
  schema := by simp [isAffirmed_append, answers.schema, truth]
  table := by simp [isAffirmed_append, answers.table]

theorem append_table (answers : Answers place schemaThere false known) {answer : Answer}
    (truth : answer.truth? = some tableThere) :
    Answers place schemaThere tableThere
      (known ++ [(.catalog (.tableExists place), .answer answer)]) where
  schema := by simp [isAffirmed_append, answers.schema]
  table := by simp [isAffirmed_append, answers.table, truth]

end Answers

/-- Whether a status is what an action makes of discrepancies. If the table was not there, these
are that it is missing and perhaps its schema. -/
structure Explains (table : Table) (environment : Environment) (action : Action)
    (known : List Exchange) (found : List Discrepancy) (present : Bool) (status : TableStatus) :
    Prop where
  status_eq : status =
    (Report.settled table environment action {} found).finish table environment present
  present_iff : present = true ↔ IsFound (table.physical environment) known
  absent : present = false →
    .tableMissing ∈ found ∧ ∀ discrepancy ∈ found,
      discrepancy = .schemaMissing ∨ discrepancy = .tableMissing

/-- Whether some discrepancies explain a status. -/
def IsExplained (table : Table) (environment : Environment) (action : Action)
    (known : List Exchange) (status : TableStatus) : Prop :=
  ∃ found present, Explains table environment action known found present status

section Conclusions

variable {connection : Connection} {table : Table} {action : Action} {place : TableName}
  {schemaThere tableThere : Bool} {known : List Exchange}

/-- Settling discrepancies tells nothing about the schema and the table. -/
theorem concludes_settleAll (report : Report) (discrepancies : List Discrepancy)
    (answers : Answers place schemaThere tableThere known) :
    (settleAll connection table action report discrepancies).Concludes
      (fun known settled => Answers place schemaThere tableThere known ∧
        settled = report.settled table connection.environment action discrepancies) known := by
  induction discrepancies generalizing report known with
  | nil =>
      rw [Report.settled_nil]
      exact ⟨answers, rfl⟩
  | cons discrepancy rest ih =>
      rw [settleAll, settle]
      cases remedy : discrepancy.remedy? table connection.environment action with
      | none =>
          rw [Report.settled_cons_of_none remedy]
          exact ih _ answers
      | some definition =>
          rw [Report.settled_cons_of_remedy remedy]
          exact fun answer => ih _ (answers.append (by simp) (by simp) answer)

/-- A query of the catalog about columns or a key tells nothing about the schema and the table. -/
theorem concludes_askCatalog {α : Type} {query : CatalogQuery}
    (answers : Answers place schemaThere tableThere known)
    (notSchema : query ≠ .schemaExists place.schema) (notTable : query ≠ .tableExists place)
    (read : Answer → Option α) :
    (askCatalog connection table query read).Concludes
      (fun known _ => Answers place schemaThere tableThere known) known := by
  apply Dialogue.concludes_ask
  intro answer value _
  exact answers.append (by simp [notSchema]) (by simp [notTable]) answer

/-- The table is asked for only when the schema is there. -/
theorem concludes_askTable
    (answers : Answers (table.physical connection.environment) schemaThere false known) :
    (askTable connection table schemaThere).Concludes
      (fun known tableThere =>
        Answers (table.physical connection.environment) schemaThere tableThere known ∧
          (tableThere = true → schemaThere = true)) known := by
  cases schemaThere with
  | false => exact ⟨answers, id⟩
  | true =>
      apply Dialogue.concludes_ask
      intro answer tableThere truth
      exact ⟨answers.append_table truth, fun _ => rfl⟩

/-- The columns and the key of a table that is there explain its status. -/
theorem concludes_validatePresent
    (answers : Answers (table.physical connection.environment) true true known) :
    (validatePresent connection table action {}).Concludes
      (IsExplained table connection.environment action) known := by
  rw [validatePresent_eq]
  apply (concludes_askCatalog answers (by simp) (by simp) _).bind
  intro known columns answers
  apply (concludes_settleAll {} _ answers).bind
  rintro known _ ⟨answers, rfl⟩
  apply (concludes_askCatalog answers (by simp) (by simp) _).bind
  intro known key answers
  apply (concludes_settleAll _ _ answers).bind
  rintro known _ ⟨answers, rfl⟩
  rw [Report.settled_append]
  have found : IsFound (table.physical connection.environment) known :=
    ⟨answers.schema.mpr rfl, answers.table.mpr rfl⟩
  exact ⟨_, true, rfl, iff_of_true rfl found, by simp⟩

/-- Whatever is answered, some discrepancies explain the status that a validation gives. -/
theorem concludes_validate :
    (table.validate connection action).Concludes
      (IsExplained table connection.environment action) [] := by
  cases usable : connection.isUsable with
  | false =>
      simp only [Table.validate, Connection.carry, usable]
      trivial
  | true =>
      rw [validate_eq connection usable]
      have asked : (askCatalog connection table
            (.schemaExists (table.physical connection.environment).schema) Answer.truth?).Concludes
          (fun known schemaThere =>
            Answers (table.physical connection.environment) schemaThere false known) [] := by
        apply Dialogue.concludes_ask
        intro answer schemaThere truth
        exact Answers.nil.append_schema truth
      apply asked.bind
      intro known schemaThere answers
      apply (concludes_settleAll {} _ answers).bind
      rintro known _ ⟨answers, rfl⟩
      apply (concludes_askTable answers).bind
      rintro known tableThere ⟨answers, needsSchema⟩
      cases tableThere with
      | true =>
          rw [needsSchema rfl] at answers ⊢
          rw [if_pos rfl, if_pos rfl, Report.settled_nil]
          exact concludes_validatePresent answers
      | false =>
          apply (concludes_settleAll _ [.tableMissing] answers).bind
          rintro known _ ⟨answers, rfl⟩
          rw [Report.settled_append]
          have unfound : ¬IsFound (table.physical connection.environment) known := fun found =>
            Bool.false_ne_true (answers.table.mp found.2)
          have only : ∀ discrepancy ∈
              (if schemaThere then [] else [.schemaMissing]) ++ [Discrepancy.tableMissing],
              discrepancy = .schemaMissing ∨ discrepancy = .tableMissing := by
            cases schemaThere <;> simp
          exact ⟨_, false, rfl, iff_of_false Bool.false_ne_true unfound, fun _ =>
            ⟨List.mem_append_right _ List.mem_cons_self, only⟩⟩

end Conclusions

/-! ## Consistency -/

/-- A missing schema and a missing table stay under a check only. -/
theorem leftovers_eq_nil_iff {table : Table} {environment : Environment} {action : Action}
    {found : List Discrepancy} (missing : .tableMissing ∈ found)
    (only : ∀ discrepancy ∈ found, discrepancy = .schemaMissing ∨ discrepancy = .tableMissing) :
    leftovers table environment action found = [] ↔ action ≠ .checkOnly := by
  rw [leftovers_eq, List.filter_eq_nil_iff]
  constructor
  · rintro none_left rfl
    exact none_left _ missing rfl
  · intro builds discrepancy member
    rcases only discrepancy member with rfl | rfl <;> cases action <;> simp_all [Action.leaves]

/-- The verdict on a report, given that a check does nothing and that a table that was not there is
reported by checks only. -/
theorem Report.isConsistent_finish {report : Report} {table : Table} {environment : Environment}
    {action : Action} {present : Bool} (checked : action = .checkOnly → report.executed = [])
    (reported : present = false → (report.remaining = [] ↔ action ≠ .checkOnly)) :
    IsConsistent (report.finish table environment present) (table.physical environment) environment
      action (present = true) := by
  obtain ⟨remaining, executed⟩ := report
  have absent : present = false → (remaining = [] ↔ action ≠ .checkOnly) := reported
  constructor
  case invalid => cases remaining <;> simp [finish, status]
  case valid => cases remaining <;> cases executed <;> cases present <;> simp [finish, validity]
  case validAfterChanges =>
    cases remaining <;> cases executed <;> cases present <;> simp [finish, validity]
  case presentAndInvalid =>
    cases remaining <;> cases executed <;> cases present <;> simp [finish, validity]
  case notPresent =>
    cases present with
    | true => cases remaining <;> cases executed <;> simp [finish, validity]
    | false =>
        have stays := absent rfl
        cases remaining <;> cases executed <;> simp_all [finish, validity]
  case unchanged =>
    intro check
    exact congrArg (List.map Definition.text) (checked check)
  case physicalTable => rfl
  case environment => rfl

/-- A status that discrepancies explain is consistent. -/
theorem IsExplained.isConsistent {table : Table} {environment : Environment} {action : Action}
    {known : List Exchange} {status : TableStatus}
    (explained : IsExplained table environment action known status) :
    IsConsistent status (table.physical environment) environment action
      (IsFound (table.physical environment) known) := by
  obtain ⟨found, present, rfl, present_iff, absent⟩ := explained
  rw [← present_iff]
  apply Report.isConsistent_finish
  · rintro rfl
    exact remedies_eq_nil fun discrepancy _ => remedy?_checkOnly environment discrepancy
  · intro missing
    exact leftovers_eq_nil_iff (absent missing).1 (absent missing).2

/-- Whatever a server answers, the report of a validation that comes to an end is consistent: its
verdict says what is reported, what was done and whether the catalog had the table before. It names
the place that the catalog was asked about. -/
theorem verdicts_tell_what_was_found {State : Type} (server : Backend State) (faults : Faults)
    (connection : Connection) (table : Table) (action : Action) (state : State)
    (status : TableStatus)
    (ending : ((table.validate connection action).run server faults state).ending =
      .result (.ok status)) :
    IsConsistent status (table.physical connection.environment) connection.environment action
        (IsFound (table.physical connection.environment)
          ((table.validate connection action).exchanges server faults state)) ∧
      ∀ query, .catalog query ∈
          ((table.validate connection action).run server faults state).statements →
        query ∈ queriesAbout (table.physical connection.environment) := by
  constructor
  · have explained := concludes_validate.run ending
    rw [List.nil_append] at explained
    exact explained.isConsistent
  · intro query sent
    have issued := (sends_validate connection).statements server faults state _ sent
    cases issued with
    | catalog about => exact about

/-- A build of the postal codes that adds a column and may not repair the others says that the
table was there and is invalid; a check on a bare server says that it is not there. -/
theorem verdicts_on_zip_codes :
    (∃ status,
      ((Operation.validate School.zipCode .buildIfMissing).run conflictingReplies.steadyServer
        (.usable .production none) ()).ending = .result (.ok status) ∧
      status.result.actionsTaken ≠ [] ∧ status.validity = .presentAndInvalid) ∧
    ∃ status,
      ((Operation.validate School.zipCode .checkOnly).run (bareFor 1) (.usable .testing none)
        0).ending = .result (.ok status) ∧
      status.validity = .notPresent ∧ status.physicalTable = "main_t.zip_code" := by
  have faults := fun environment => Connection.faults (.usable environment none) School.zipCode
  constructor
  · have consistent := (verdicts_tell_what_was_found conflictingReplies.steadyServer
      (faults .production) (.usable .production none) School.zipCode .buildIfMissing () _ rfl).1
    have found : IsFound (School.zipCode.physical .production)
        ((School.zipCode.validate (.usable .production none) .buildIfMissing).exchanges
          conflictingReplies.steadyServer (faults .production) ()) :=
      ⟨⟨_, List.mem_of_getElem? (i := 0) rfl, rfl⟩, ⟨_, List.mem_of_getElem? (i := 1) rfl, rfl⟩⟩
    exact ⟨_, rfl, List.cons_ne_nil _ _,
      consistent.presentAndInvalid.mpr ⟨List.cons_ne_nil _ _, found⟩⟩
  · have consistent := (verdicts_tell_what_was_found (bareFor 1) (faults .testing)
      (.usable .testing none) School.zipCode .checkOnly 0 _ rfl).1
    have unfound : ¬IsFound (School.zipCode.physical .testing)
        ((School.zipCode.validate (.usable .testing none) .checkOnly).exchanges (bareFor 1)
          (faults .testing) 0) := by
      rintro ⟨⟨answer, member, yes⟩, -⟩
      cases List.mem_singleton.mp member
      cases yes
    exact ⟨_, rfl, consistent.notPresent.mpr ⟨rfl, unfound⟩, consistent.physicalTable⟩

end TableStore.Validation
