import TableStore.Proofs.Validation.Check
import TableStore.Proofs.Validation.Repair
import TableStore.School.Reference

/-!
# Validations converge

On a server that keeps a catalog, what a validation reports follows from the replies of the
catalog before it: the key that is asked for last has not been touched by the repair of the
columns. If nothing is left, the table conforms to its declaration afterwards, and then a further
validation under any action finds nothing to do.

A repair in which every statement is answered leaves nothing but a primary key that was there and
is another one.
-/

namespace TableStore

open Server Sql Validation

namespace Validation

/-- How a server reports a column. -/
def LiveColumn.report (column : LiveColumn) : String × String × String :=
  (column.name, column.type, if column.isNullable then "YES" else "NO")

theorem LiveColumn.ofReport_report (column : LiveColumn) :
    LiveColumn.ofReport column.report = column := by
  have yes : Environment.foldCase "YES" = "yes" := by decide +kernel
  have no : Environment.foldCase "NO" ≠ "yes" := by decide +kernel
  obtain ⟨name, type, isNullable⟩ := column
  cases isNullable <;> simp [report, ofReport, yes, no]

end Validation

namespace Server.Catalog

/-- The primary key of a table, which is empty where there is no table. -/
def primaryKey (catalog : Catalog) (name : TableName) : List String :=
  ((catalog.table? name).map (·.key)).getD []

/-- What a catalog replies about a table. -/
def replies (catalog : Catalog) (name : TableName) : Replies where
  schemaThere := catalog.hasSchema name.schema
  tableThere := (catalog.table? name).isSome
  columns := (((catalog.table? name).map (·.columns)).getD []).map LiveColumn.report
  key := catalog.primaryKey name

theorem rows_eq (catalog : Catalog) {name : TableName} {query : CatalogQuery}
    (about : query ∈ queriesAbout name) :
    catalog.rows query = (catalog.replies name).rows query := by
  simp only [queriesAbout, List.mem_cons, List.not_mem_nil, or_false] at about
  rcases about with rfl | rfl | rfl | rfl
  · rfl
  · rfl
  · rw [rows, Replies.rows, replies, List.map_map]
    rfl
  · rfl

variable {catalog : Catalog} {name : TableName} {live : LiveTable} {table : Table}

theorem isPresent_replies (found : catalog.table? name = some live) :
    (catalog.replies name).isPresent = true := by
  rw [Replies.isPresent, replies, hasSchema_of_table? found, found]
  rfl

theorem columnsDiscrepancies_replies (found : catalog.table? name = some live) :
    (catalog.replies name).columnsDiscrepancies table =
      columnsDiscrepancies table live.columns := by
  have columns : ((catalog.replies name).columns).map LiveColumn.ofReport = live.columns := by
    rw [replies, found, List.map_map]
    exact List.map_id'' LiveColumn.ofReport_report _
  rw [Replies.columnsDiscrepancies, columns]

theorem key_replies (found : catalog.table? name = some live) :
    (catalog.replies name).key = live.key := by
  rw [replies, primaryKey, found]
  rfl

/-- The replies of a catalog about a conforming table show no discrepancy. -/
theorem discrepancies_replies (found : catalog.table? name = some live)
    (conforms : live.Conforms table) : (catalog.replies name).discrepancies table = [] := by
  have schemaThere : (catalog.replies name).schemaThere = true := hasSchema_of_table? found
  rw [Replies.discrepancies, isPresent_replies found, if_pos rfl,
    columnsDiscrepancies_replies found, conforms.columns, key_replies found, keyDiscrepancies,
    if_pos conforms.key, Replies.schemaDiscrepancies, if_pos schemaThere]
  rfl

end Server.Catalog

namespace Validation

variable {State : Type} {server : Backend State} {view : State → Catalog} {table : Table}
  {environment : Environment} {limit : Option Duration} {action : Action} {state final : State}
  {sent : List Statement}

/-- A server that keeps a catalog gives its replies as long as the catalog stays. -/
theorem given_of_serves (serves : Serves server view) (catalog : Catalog) (name : TableName) :
    (catalog.replies name).Given server name fun state => view state = catalog := by
  rintro state rfl query about
  obtain ⟨answer, after, answered, rows, same⟩ := serves.queried state query
  exact ⟨answer, after, answered, rows.trans (Catalog.rows_eq _ about), same⟩

/-- Asking a server that keeps a catalog gives its reply and leaves it. -/
theorem ends_of_askCatalog (serves : Serves server view) {α : Type} (query : CatalogQuery)
    (about : query ∈ queriesAbout (table.physical environment)) {read : Answer → Option α}
    {value : α} {result : Except Error α}
    (readable : ∀ answer : Answer,
      answer.rows = ((view state).replies (table.physical environment)).rows query →
        read answer = some value)
    (ends : Dialogue.Ends server (askCatalog (.usable environment limit) table query read) state
      sent result final) :
    result = .ok value ∧ view final = view state := by
  obtain ⟨answer, answered, -, read⟩ := Dialogue.ends_of_ask ends
  obtain ⟨other, after, replied, rows, same⟩ := serves.queried state query
  rw [replied] at answered
  cases answered
  rw [readable answer (rows.trans (Catalog.rows_eq _ about))] at read
  exact ⟨read, same⟩

theorem ends_of_askTable (serves : Serves server view) {replies : Replies}
    (kept : replies.schemaThere = true →
      (view state).replies (table.physical environment) = replies) {result : Except Error Bool}
    (ends : Dialogue.Ends server
      (askTable (.usable environment limit) table replies.schemaThere) state sent result final) :
    result = .ok replies.isPresent ∧ view final = view state := by
  unfold askTable at ends
  unfold Replies.isPresent
  cases there : replies.schemaThere with
  | false =>
      rw [there] at ends
      cases ends
      exact ⟨rfl, rfl⟩
  | true =>
      rw [there, if_pos rfl] at ends
      refine ends_of_askCatalog serves (.tableExists (table.physical environment))
        (by simp [queriesAbout]) (fun answer rows => ?_) ends
      rw [kept there] at rows
      exact truth?_eq rows

/-- The end of a validation that has found no table. -/
theorem outcome_of_missing (serves : Serves server view) {report : Report}
    {result : Except Error TableStatus}
    (ends : Dialogue.Ends server
      ((settleAll (.usable environment limit) table action report [.tableMissing]).bind
        fun report => .done (.ok (report.finish table environment false)))
      state sent result final) :
    result = .ok ((report.settled table environment action [.tableMissing]).finish table
        environment false) ∧
      (leftovers table environment action [.tableMissing] = [] →
        ∃ live, (view final).table? (table.physical environment) = some live ∧
          live.Conforms table) := by
  obtain ⟨middle, more, executed, ends⟩ := ends.rest fun settled =>
    executed_of_ends_settleAll serves (by simp) settled
  cases ends
  exact ⟨rfl, settle_table executed⟩

/-- The end of a validation that has found the table. -/
theorem outcome_of_present (serves : Serves server view) {report : Report} {live : LiveTable}
    (found : (view state).table? (table.physical environment) = some live)
    {result : Except Error TableStatus}
    (ends : Dialogue.Ends server
      (validatePresent (.usable environment limit) table action report) state sent result final) :
    result = .ok ((report.settled table environment action
        (columnsDiscrepancies table live.columns ++ keyDiscrepancies table live.key)).finish
          table environment true) ∧
      (leftovers table environment action
          (columnsDiscrepancies table live.columns ++ keyDiscrepancies table live.key) = [] →
        ∃ live, (view final).table? (table.physical environment) = some live ∧
          live.Conforms table) := by
  rw [validatePresent_eq] at ends
  obtain ⟨s₁, _, sameColumns, ends⟩ := ends.rest fun asked =>
    ends_of_askCatalog serves (.columns (table.physical environment)) (by simp [queriesAbout])
      (fun answer rows => triples?_eq rows) asked
  rw [← Replies.columnsDiscrepancies, Catalog.columnsDiscrepancies_replies found] at ends
  obtain ⟨s₂, _, columnsExecuted, ends⟩ := ends.rest fun settled =>
    executed_of_ends_settleAll serves
      (fun key member => absurd member (wrongKey_notMem_columnsDiscrepancies key)) settled
  rw [sameColumns] at columnsExecuted
  obtain ⟨repaired, replaces, sameKey, -, clean⟩ :=
    settle_columns table.nodup_fieldNames found (fun _ _ => rfl) columnsExecuted
  obtain ⟨s₃, _, sameRepaired, ends⟩ := ends.rest fun asked =>
    ends_of_askCatalog serves (.primaryKey (table.physical environment)) (by simp [queriesAbout])
      (fun answer rows => texts?_eq rows) asked
  rw [Catalog.key_replies replaces.table, sameKey] at ends
  obtain ⟨s₄, _, keyExecuted, ends⟩ := ends.rest fun settled =>
    executed_of_ends_settleAll serves
      (fun key member => by
        obtain ⟨same, differs⟩ := mem_keyDiscrepancies_iff.mp member
        cases same
        exact differs) settled
  rw [sameRepaired] at keyExecuted
  obtain ⟨changed, keyReplaces, conforms⟩ :=
    settle_key replaces.table sameKey.symm keyExecuted
  cases ends
  rw [Report.settled_append]
  refine ⟨rfl, fun none_left => ⟨changed, keyReplaces.table, ?_⟩⟩
  rw [leftovers_append, List.append_eq_nil_iff] at none_left
  exact conforms none_left.2
    (Table.columnsDiscrepancies_eq_nil_iff.mpr (clean none_left.1))

/-- What a validation reports on a server that keeps a catalog, and what it leaves behind when
it leaves no discrepancy. -/
theorem outcome_of_ends (serves : Serves server view) {result : Except Error TableStatus}
    (ends : Dialogue.Ends server (table.validate (.usable environment limit) action) state sent
      result final) :
    let replies := (view state).replies (table.physical environment)
    result = .ok ((Report.settled table environment action {}
        (replies.discrepancies table)).finish table environment replies.isPresent) ∧
      (leftovers table environment action (replies.discrepancies table) = [] →
        ∃ live, (view final).table? (table.physical environment) = some live ∧
          live.Conforms table) := by
  intro replies
  rw [validate_eq _ rfl] at ends
  obtain ⟨s₁, _, sameAsked, ends⟩ := ends.rest fun asked =>
    ends_of_askCatalog serves (.schemaExists (table.physical environment).schema)
      (by simp [queriesAbout]) (fun answer rows => truth?_eq rows) asked
  have noKey : ∀ key, .wrongKey key ∈ replies.schemaDiscrepancies → key ≠ table.keyNames := by
    simp [Replies.schemaDiscrepancies]
  obtain ⟨s₂, _, schemaExecuted, ends⟩ := ends.rest fun settled =>
    executed_of_ends_settleAll serves noKey settled
  rw [sameAsked] at schemaExecuted
  have kept : replies.schemaThere = true → view s₂ = view state := by
    intro there
    rw [Replies.schemaDiscrepancies, if_pos there] at schemaExecuted
    exact (Option.some.inj schemaExecuted).symm
  obtain ⟨s₃, _, sameTable, ends⟩ := ends.rest fun asked =>
    ends_of_askTable serves (fun there => by rw [kept there]) asked
  rw [Replies.discrepancies, ← Report.settled_append, leftovers_append, List.append_eq_nil_iff]
  cases present : replies.isPresent with
  | false =>
      rw [present, if_neg Bool.false_ne_true] at ends
      obtain ⟨rfl, conforms⟩ := outcome_of_missing serves ends
      exact ⟨rfl, fun none_left => conforms none_left.2⟩
  | true =>
      obtain ⟨schemaThere, tableThere⟩ := Bool.and_eq_true_iff.mp present
      obtain ⟨live, found⟩ := Option.isSome_iff_exists.mp tableThere
      have foundThen : (view s₃).table? (table.physical environment) = some live := by
        rw [sameTable, kept schemaThere, found]
      rw [present, if_pos rfl] at ends
      obtain ⟨rfl, conforms⟩ := outcome_of_present serves foundThen ends
      rw [if_pos rfl, Catalog.columnsDiscrepancies_replies found, Catalog.key_replies found]
      exact ⟨rfl, fun none_left => conforms none_left.2⟩

/-! ## Convergence -/

/-- A repair leaves nothing but a primary key that is there and differs. -/
theorem remedy?_repair_eq_none_iff {discrepancy : Discrepancy} :
    discrepancy.remedy? table environment .buildOrRepairIfInvalid = none ↔
      ∃ key, discrepancy = .wrongKey key ∧ key ≠ [] := by
  cases discrepancy <;> simp [Discrepancy.remedy?, Action.builds, Action.repairs]

theorem leftovers_repair {discrepancies : List Discrepancy}
    (keyless : ∀ key, .wrongKey key ∉ discrepancies) :
    leftovers table environment .buildOrRepairIfInvalid discrepancies = [] := by
  rw [leftovers, List.filter_eq_nil_iff]
  intro discrepancy member left
  obtain ⟨key, rfl, -⟩ := remedy?_repair_eq_none_iff.mp (Option.isNone_iff_eq_none.mp left)
  exact keyless key member

theorem leftovers_repair_key (key : List String) :
    leftovers table environment .buildOrRepairIfInvalid (keyDiscrepancies table key) =
      if key ≠ [] ∧ key ≠ table.keyNames then [.wrongKey key] else [] := by
  by_cases same : key = table.keyNames
  · simp [keyDiscrepancies, leftovers, same]
  · by_cases keyless : key = []
    · rw [keyDiscrepancies, if_neg same, if_neg fun both => both.1 keyless, leftovers,
        List.filter_cons_of_neg]
      · rfl
      · rw [Option.isNone_iff_eq_none, remedy?_repair_eq_none_iff]
        rintro ⟨other, sameKey, nonempty⟩
        cases sameKey
        exact nonempty keyless
    · rw [keyDiscrepancies, if_neg same, if_pos ⟨keyless, same⟩, leftovers,
        List.filter_cons_of_pos]
      · rfl
      · rw [Option.isNone_iff_eq_none, remedy?_repair_eq_none_iff]
        exact ⟨key, rfl, keyless⟩

/-- What a repair leaves of a catalog. -/
theorem leftovers_repair_replies (catalog : Catalog) :
    let key := catalog.primaryKey (table.physical environment)
    leftovers table environment .buildOrRepairIfInvalid
        ((catalog.replies (table.physical environment)).discrepancies table) =
      if key ≠ [] ∧ key ≠ table.keyNames then [.wrongKey key] else [] := by
  intro key
  have schema : leftovers table environment .buildOrRepairIfInvalid
      (catalog.replies (table.physical environment)).schemaDiscrepancies = [] :=
    leftovers_repair (by simp [Replies.schemaDiscrepancies])
  rw [Replies.discrepancies, leftovers_append, schema, List.nil_append]
  cases found : catalog.table? (table.physical environment) with
  | none =>
      have absent : (catalog.replies (table.physical environment)).isPresent = false := by
        rw [Replies.isPresent, Catalog.replies, found]
        exact Bool.and_false _
      have keyless : key = [] := by
        simp only [key, Catalog.primaryKey, found, Option.map_none, Option.getD_none]
      rw [absent, if_neg Bool.false_ne_true, if_neg fun both => both.1 keyless]
      exact leftovers_repair (by simp)
  | some live =>
      rw [Catalog.isPresent_replies found, if_pos rfl, leftovers_append,
        Catalog.columnsDiscrepancies_replies found,
        leftovers_repair wrongKey_notMem_columnsDiscrepancies, List.nil_append]
      exact leftovers_repair_key key

/-- Where nothing is left, a further validation finds nothing to do. -/
theorem exists_run_of_conforms (limit : Option Duration) (action : Action)
    (serves : Serves server view) (faults : Faults) {live : LiveTable}
    (found : (view state).table? (table.physical environment) = some live)
    (conforms : live.Conforms table) :
    ∃ final, (table.validate (.usable environment limit) action).run server faults state =
      ⟨.result (.ok (Report.finish {} table environment true)),
        (((view state).replies (table.physical environment)).questions
          (table.physical environment)).map .catalog, final⟩ := by
  have clean := Catalog.discrepancies_replies found conforms
  have left : ∀ discrepancy ∈
      ((view state).replies (table.physical environment)).discrepancies table,
      discrepancy.remedy? table environment action = none := by
    rw [clean]
    simp
  obtain ⟨final, -, run⟩ := exists_run_validate limit faults
    (given_of_serves serves (view state) (table.physical environment)) rfl left
  rw [clean, Catalog.isPresent_replies found] at run
  exact ⟨final, run⟩

/-- On a server that keeps a catalog, a validation that reports a valid table is followed by
validations that find it valid and do nothing, whatever they might do. A repair in which every
statement is answered reports a valid table, unless the table had a primary key before that is
not the declared one; then this is its only error. -/
theorem validate_converges (serves : Serves server view) (table : Table)
    (environment : Environment) (limit : Option Duration) (faults : Faults) (state : State) :
    let run (action : Action) (state : State) :=
      (table.validate (.usable environment limit) action).run server faults state
    (∀ action status, (run action state).ending = .result (.ok status) →
      status.result.status = .valid →
      ∀ again, ∃ checked, (run again (run action state).state).ending = .result (.ok checked) ∧
        checked.validity = .valid ∧ checked.result.status = .valid ∧
        checked.result.errors = [] ∧ checked.result.actionsTaken = [] ∧
        ∀ statement ∈ (run again (run action state).state).statements,
          statement.isCatalogQuery = true) ∧
    (Dialogue.Succeeds server
        (table.validate (.usable environment limit) .buildOrRepairIfInvalid) state →
      let key := (view state).primaryKey (table.physical environment)
      ∃ status, (run .buildOrRepairIfInvalid state).ending = .result (.ok status) ∧
        if key ≠ [] ∧ key ≠ table.keyNames then
          status.result.status = .invalid ∧ status.validity = .presentAndInvalid ∧
            status.result.errors = ["primary key is (" ++ ", ".intercalate key ++
              "), expected (" ++ ", ".intercalate table.keyNames ++ ")"]
        else status.result.status = .valid) := by
  intro run
  constructor
  · intro action status ending valid again
    obtain ⟨finished, conforms⟩ := outcome_of_ends serves (Dialogue.ends_of_ending ending)
    have none_left : leftovers table environment action
        (((view state).replies (table.physical environment)).discrepancies table) = [] := by
      cases finished
      simpa [Report.finish, Report.status, Report.settled] using valid
    obtain ⟨live, found, conforms⟩ := conforms none_left
    obtain ⟨final, second⟩ := exists_run_of_conforms limit again serves faults found conforms
    change run again (run action state).state = _ at second
    refine ⟨Report.finish {} table environment true, ?_⟩
    rw [second]
    refine ⟨rfl, rfl, rfl, rfl, rfl, fun statement member => ?_⟩
    obtain ⟨query, -, rfl⟩ := List.mem_map.mp member
    rfl
  · rintro ⟨sent, result, final, ends⟩ key
    obtain ⟨rfl, -⟩ := outcome_of_ends serves ends
    refine ⟨_, congrArg Run.ending ends.run_eq, ?_⟩
    rw [Report.settled, leftovers_repair_replies]
    by_cases differs : key ≠ [] ∧ key ≠ table.keyNames
    · rw [if_pos differs, if_pos differs]
      have present : ((view state).replies (table.physical environment)).isPresent = true := by
        cases found : (view state).table? (table.physical environment) with
        | none => exact absurd (by simp only [key, Catalog.primaryKey, found]; rfl) differs.1
        | some live => exact Catalog.isPresent_replies found
      rw [present]
      exact ⟨rfl, rfl, rfl⟩
    · rw [if_neg differs, if_neg differs]
      rfl

/-- A catalog with postal codes in disrepair: a field without a column, a column of another type,
columns that may be empty, a column that is not declared, and no key. -/
def disrepair : Catalog :=
  ⟨fun schema => if schema = School.institution then some fun table =>
      if table = "zip_code" then
        LiveTable.ofParts?
          [⟨"city", "integer", true⟩, ⟨"remark", "xml", true⟩, ⟨"zip_code", "varchar", true⟩] []
      else none
    else none⟩

/-- Postal codes in disrepair are repaired by five statements and conform afterwards. -/
theorem validate_converges_disrepair :
    ∃ status checked,
      (Dialogue.run Catalog.server (Connection.faults (.usable .production none) School.zipCode)
        (School.zipCode.validate (.usable .production none) .buildOrRepairIfInvalid)
        disrepair).ending = .result (.ok status) ∧
      status.result.status = .valid ∧ status.result.actionsTaken.length = 5 ∧
      (Dialogue.run Catalog.server (Connection.faults (.usable .production none) School.zipCode)
        (School.zipCode.validate (.usable .production none) .checkOnly)
        (Dialogue.run Catalog.server (Connection.faults (.usable .production none) School.zipCode)
          (School.zipCode.validate (.usable .production none) .buildOrRepairIfInvalid)
          disrepair).state).ending = .result (.ok checked) ∧
      checked.validity = .valid := by
  obtain ⟨repaired, ending, taken⟩ : ∃ status,
      (Dialogue.run Catalog.server (Connection.faults (.usable .production none) School.zipCode)
        (School.zipCode.validate (.usable .production none) .buildOrRepairIfInvalid)
        disrepair).ending = .result (.ok status) ∧ status.result.actionsTaken.length = 5 :=
    ⟨_, rfl, rfl⟩
  have converges := validate_converges Catalog.serves_server School.zipCode .production none
    (Connection.faults (.usable .production none) School.zipCode) disrepair
  obtain ⟨status, sameEnding, valid⟩ := converges.2 ⟨_, _, _, Dialogue.ends_of_ending ending⟩
  rw [ending] at sameEnding
  cases sameEnding
  rw [if_neg fun both => both.1 rfl] at valid
  obtain ⟨checked, checkedEnding, checkedValid, -⟩ :=
    converges.1 _ repaired ending valid .checkOnly
  exact ⟨repaired, checked, ending, valid, taken, checkedEnding, checkedValid⟩

end Validation

end TableStore
