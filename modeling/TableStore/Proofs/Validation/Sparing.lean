import TableStore.Proofs.Server.Safety
import TableStore.Proofs.Validation.Convergence
import TableStore.Proofs.Validation.Frame

/-!
# Validations destroy nothing

Every remedy spares what there was when the validation began. Only that of a wrong type depends on
what was reported of a column, and what was reported is how the column was at the beginning, because
nothing but the schema can have been created before the columns are asked for.

So a validation spares what there was wherever it is cut short: by a statement that fails, by one
that stays without an answer, or by an answer that cannot be read.
-/

namespace TableStore

open Server Sql

namespace Validation

/-! ## Remedies -/

variable {table : Table} {environment : Environment} {action : Action}
  {before current after : Catalog}

/-- Whether a discrepancy is one of a declared field, and of the type that its column had at the
beginning. -/
def Discrepancy.Warranted (table : Table) (place : TableName) (before : Catalog) :
    Discrepancy → Prop
  | .wrongType field _ => field ∈ table.fields ∧
      ∀ live, before.table? place = some live → ∀ column ∈ live.columns,
        column.name = field.name → field.type.holdsIn column.type = false
  | .wrongNullability field => field ∈ table.fields
  | _ => True

theorem Action.eq_of_repairs (repairs : action.repairs = true) :
    action = .buildOrRepairIfInvalid := by
  cases action with
  | buildOrRepairIfInvalid => rfl
  | _ => cases repairs

/-- The fields of the key declare that their columns are never empty. -/
theorem exists_field_of_mem_keyNames {name : String} (keyed : name ∈ table.keyNames) :
    ∃ field ∈ table.fields, field.name = name ∧ field.isNullable = false := by
  obtain ⟨field, member, rfl⟩ := List.mem_map.mp keyed
  have declared : field ∈ table.fields := by
    rcases List.mem_append.mp member with partition | clustering
    · exact (List.mem_filter.mp partition).1
    · exact (List.mem_filter.mp clustering).1
  exact ⟨field, declared, rfl, Table.isNullable_of_mem_keyNames declared keyed⟩

/-- A remedy that is executed spares what was there at the beginning. -/
theorem spares_of_remedy? (discrepancy : Discrepancy) {definition : Definition}
    (warranted : discrepancy.Warranted table (table.physical environment) before)
    (remedy : discrepancy.remedy? table environment action = some definition)
    (spares : Catalog.Spares table (table.physical environment) action before current)
    (executed : current.execute? definition = some after) :
    Catalog.Spares table (table.physical environment) action before after := by
  cases discrepancy with
  | schemaMissing =>
      obtain ⟨-, ⟨⟩⟩ := Option.ite_none_right_eq_some.mp remedy
      cases executed
      exact spares.addSchema
  | tableMissing =>
      obtain ⟨-, ⟨⟩⟩ := Option.ite_none_right_eq_some.mp remedy
      exact spares.createTable executed
  | columnMissing field =>
      obtain ⟨-, ⟨⟩⟩ := Option.ite_none_right_eq_some.mp remedy
      exact spares.alter executed fun _ _ _ _ spared added => spared.addColumn added
  | wrongType field reported =>
      obtain ⟨declared, wrong⟩ := warranted
      obtain ⟨repairs, ⟨⟩⟩ := Option.ite_none_right_eq_some.mp remedy
      obtain rfl := Action.eq_of_repairs repairs
      refine spares.alter executed fun live now changed found spared retyped => ?_
      obtain ⟨-, retyped⟩ := Option.ite_none_right_eq_some.mp retyped
      obtain ⟨columns, key⟩ := LiveTable.eq_of_ofParts? retyped
      exact spared.map columns (.inl key) fun old member new sparedNew =>
        sparedNew.retype declared (wrong live found old member)
  | wrongNullability field =>
      obtain ⟨repairs, ⟨⟩⟩ := Option.ite_none_right_eq_some.mp remedy
      obtain rfl := Action.eq_of_repairs repairs
      refine spares.alter executed fun live now changed found spared renulled => ?_
      obtain ⟨-, renulled⟩ := Option.ite_none_right_eq_some.mp renulled
      obtain ⟨columns, key⟩ := LiveTable.eq_of_ofParts? renulled
      refine spared.map columns (.inl key) fun old _ new sparedNew => sparedNew.renull ?_
      intro name named
      exact ⟨field, warranted, (List.mem_singleton.mp named).symm, rfl⟩
  | wrongKey reported =>
      obtain ⟨allowed, ⟨⟩⟩ := Option.ite_none_right_eq_some.mp remedy
      obtain rfl := Action.eq_of_repairs (Bool.and_eq_true_iff.mp allowed).2
      refine spares.alter executed fun live now changed found spared added => ?_
      obtain ⟨keyless, added⟩ := Option.ite_none_right_eq_some.mp added
      obtain ⟨columns, key⟩ := LiveTable.eq_of_ofParts? added
      -- a new key makes its columns never empty, which is what their fields declare
      exact spared.map columns (.inr ⟨rfl, keyless, key⟩) fun old _ new sparedNew =>
        sparedNew.renull fun name keyed => exists_field_of_mem_keyNames keyed

/-- What is found wrong with the columns of a table as they were at the beginning is warranted. -/
theorem warranted_of_mem {place : TableName} {columns : List LiveColumn}
    (reported : ∀ live, before.table? place = some live → columns = live.columns)
    {discrepancy : Discrepancy} (member : discrepancy ∈ columnsDiscrepancies table columns) :
    discrepancy.Warranted table place before := by
  obtain ⟨field, declared, member⟩ := List.mem_flatMap.mp member
  cases found : liveColumn? columns field.name with
  | none =>
      rw [found, columnDiscrepancies, List.mem_singleton] at member
      subst member
      trivial
  | some column =>
      rw [found] at member
      rcases mem_columnDiscrepancies_some.mp member with ⟨rfl, wrong⟩ | ⟨rfl, -⟩
      · refine ⟨declared, fun live there other otherMember sameName => ?_⟩
        obtain rfl := reported live there
        -- the names are distinct, so the column of which this was reported is the only one
        have only := liveColumn?_eq_some live.distinct otherMember
        rw [sameName, found] at only
        cases only
        exact beq_false_of_ne wrong
      · exact declared

/-! ## Validations -/

variable {State : Type} {server : Backend State} {view : State → Catalog}
  {connection : Connection}

/-- Settling keeps what every remedy keeps, wherever it is cut short. -/
theorem secures_settleAll (obeys : Obeys server view) (kept : Catalog → Prop)
    {discrepancies : List Discrepancy}
    (differ : ∀ live, .wrongKey live ∈ discrepancies → live ≠ table.keyNames)
    (keeps : ∀ discrepancy ∈ discrepancies, ∀ definition,
      discrepancy.remedy? table connection.environment action = some definition →
      ∀ current after, kept current → current.execute? definition = some after → kept after)
    (report : Report) {state : State} (initially : kept (view state)) :
    (settleAll connection table action report discrepancies).Secures server
      (fun state => kept (view state)) (fun _ state => kept (view state)) state := by
  induction discrepancies generalizing report state with
  | nil => exact .value initially
  | cons discrepancy rest ih =>
      have later := fun report state (holds : kept (view state)) =>
        ih (fun live member => differ live (List.mem_cons_of_mem _ member))
          (fun other member => keeps other (List.mem_cons_of_mem _ member)) report holds
      refine Dialogue.Secures.bind ?_ later
      unfold settle
      cases remedy : discrepancy.remedy? table connection.environment action with
      | none => exact .value initially
      | some definition =>
          have readable : definition.IsReadable := isReadable_of_remedy?
            (fun live same => differ live (same ▸ List.mem_cons_self)) remedy
          have holds : kept (view (server state (.definition definition)).2) := by
            rcases obeys.changed state definition with same | ⟨read, text, executed⟩
            · rwa [same]
            · rw [Statement.text, Definition.ofText?_text readable] at text
              cases text
              exact keeps discrepancy List.mem_cons_self definition remedy _ _ initially executed
          refine Dialogue.secures_send holds fun answer after replied => .value ?_
          rw [replied] at holds
          exact holds

/-- A query of the catalog leaves it as it is, and its answer is the one of the catalog. -/
theorem secures_askCatalog (obeys : Obeys server view) (kept : Catalog → Prop) {α : Type}
    (query : CatalogQuery) (read : Answer → Option α) {state : State}
    (initially : kept (view state)) :
    (askCatalog connection table query read).Secures server (fun state => kept (view state))
      (fun value after => view after = view state ∧ ∃ answer : Answer,
        answer.rows = (view state).rows query ∧ read answer = some value) state := by
  have same := obeys.kept state query
  refine Dialogue.secures_ask (by rwa [same]) fun answer after value replied readable => ?_
  rw [replied] at same
  exact ⟨same, answer, obeys.queried state query answer after replied, readable⟩

/-- Whether the table is as it was at the beginning, and everything is spared. -/
structure Begun (connection : Connection) (table : Table) (action : Action)
    (before current : Catalog) : Prop where
  spares : Catalog.Spares table (table.physical connection.environment) action before current
  untouched : current.table? (table.physical connection.environment) =
    before.table? (table.physical connection.environment)

/-- Settling whether the schema is there does not touch the table. -/
theorem secures_settleSchema (obeys : Obeys server view) (schemaThere : Bool) (report : Report)
    {state : State} (begun : Begun connection table action before (view state)) :
    (settleAll connection table action report
        (if schemaThere then [] else [.schemaMissing])).Secures server
      (fun state => Begun connection table action before (view state))
      (fun _ state => Begun connection table action before (view state)) state := by
  refine secures_settleAll obeys (Begun connection table action before)
    (by cases schemaThere <;> simp) ?_ report begun
  intro discrepancy member definition remedy current after begun executed
  obtain rfl : discrepancy = .schemaMissing := by
    cases schemaThere <;> simp_all
  refine ⟨spares_of_remedy? .schemaMissing trivial remedy begun.spares executed, ?_⟩
  obtain ⟨-, ⟨⟩⟩ := Option.ite_none_right_eq_some.mp remedy
  cases executed
  exact (Catalog.table?_addSchema _ _ _).trans begun.untouched

/-- The columns that a catalog reports of a table are read as they are. -/
theorem map_ofReport_eq {catalog : Catalog} {place : TableName} {live : LiveTable}
    (found : catalog.table? place = some live) {answer : Answer}
    (rows : answer.rows = catalog.rows (.columns place))
    {columns : List (String × String × String)} (read : answer.triples? = some columns) :
    columns.map LiveColumn.ofReport = live.columns := by
  have reported : answer.rows = (live.columns.map LiveColumn.report).map tripleCells := by
    rw [rows, Catalog.rows, found, List.map_map]
    rfl
  rw [triples?_eq reported] at read
  cases read
  rw [List.map_map]
  exact List.map_id'' LiveColumn.ofReport_report _

/-- Comparing a table that is there spares everything. -/
theorem secures_validatePresent (obeys : Obeys server view) (report : Report) {state : State}
    (begun : Begun connection table action before (view state)) :
    let spared := Catalog.Spares table (table.physical connection.environment) action before
    (validatePresent connection table action report).Secures server
      (fun state => spared (view state)) (fun _ state => spared (view state)) state := by
  intro spared
  rw [validatePresent_eq]
  refine (secures_askCatalog obeys spared _ _ begun.spares).bind ?_
  rintro columns s₁ ⟨asked, answer, rows, read⟩
  have reported : ∀ live, before.table? (table.physical connection.environment) = some live →
      columns.map LiveColumn.ofReport = live.columns := by
    intro live found
    rw [← begun.untouched] at found
    exact map_ofReport_eq found rows read
  have spares₁ : spared (view s₁) := asked ▸ begun.spares
  refine (secures_settleAll obeys spared
    (fun key member => absurd member (wrongKey_notMem_columnsDiscrepancies key))
    (fun discrepancy member definition remedy current after spares executed =>
      spares_of_remedy? discrepancy (warranted_of_mem reported member) remedy spares executed)
    report spares₁).bind ?_
  intro report s₂ spares₂
  refine (secures_askCatalog obeys spared _ _ spares₂).bind ?_
  rintro key s₃ ⟨asked, -⟩
  have spares₃ : spared (view s₃) := asked ▸ spares₂
  have differ : ∀ live, .wrongKey live ∈ keyDiscrepancies table key → live ≠ table.keyNames := by
    intro live member
    obtain ⟨same, differs⟩ := mem_keyDiscrepancies_iff.mp member
    cases same
    exact differs
  refine (secures_settleAll obeys spared differ ?_ report spares₃).bind
    fun report state spares => .value spares
  intro discrepancy member definition remedy current after spares executed
  obtain ⟨rfl, -⟩ := mem_keyDiscrepancies_iff.mp member
  exact spares_of_remedy? (.wrongKey key) trivial remedy spares executed

/-- A validation spares everything, wherever it is cut short. -/
theorem secures_validate (obeys : Obeys server view) (connection : Connection) (table : Table)
    (action : Action) (state : State) :
    let spared :=
      Catalog.Spares table (table.physical connection.environment) action (view state)
    (table.validate connection action).Secures server (fun after => spared (view after))
      (fun _ after => spared (view after)) state := by
  intro spared
  have spares : spared (view state) := .refl _
  cases usable : connection.isUsable with
  | false =>
      simp only [Table.validate, Connection.carry, usable]
      exact .error _ spares
  | true =>
      rw [validate_eq connection usable]
      refine (secures_askCatalog obeys spared _ _ spares).bind ?_
      rintro schemaThere s₁ ⟨asked, -⟩
      have begun₁ : Begun connection table action (view state) (view s₁) := by
        rw [asked]
        exact ⟨spares, rfl⟩
      refine ((secures_settleSchema obeys schemaThere {} begun₁).mono
        (fun _ begun => begun.spares) fun _ _ begun => begun).bind ?_
      intro report s₂ begun₂
      have askedTable : (askTable connection table schemaThere).Secures server
          (fun after => spared (view after)) (fun _ after => view after = view s₂) s₂ := by
        unfold askTable
        split
        · exact (secures_askCatalog obeys spared _ _ begun₂.spares).mono (fun _ => id)
            fun _ _ given => given.1
        · exact .value rfl
      refine askedTable.bind fun tableThere s₃ same => ?_
      have begun₃ : Begun connection table action (view state) (view s₃) := same ▸ begun₂
      split
      · exact secures_validatePresent obeys report begun₃
      · refine (secures_settleAll obeys spared (by simp) ?_ report begun₃.spares).bind
          fun report state spares => .value spares
        intro discrepancy member definition remedy current after spares executed
        obtain rfl := List.mem_singleton.mp member
        exact spares_of_remedy? .tableMissing trivial remedy spares executed

/-- On a server that obeys, a validation under any action leaves everything but its table and its
schema as it is, wherever it is cut short. It removes no schema, no table and no column. Of a column
it changes the type or the nullability only as a repair, and only to the one that a field of that
name declares where it was another one; so a column without a field stays exactly as it was. A
primary key that was there stays. -/
theorem validations_destroy_nothing {State : Type} {server : Backend State}
    {view : State → Catalog} (obeys : Obeys server view) (connection : Connection) (table : Table)
    (action : Action) (faults : Faults) (state : State) :
    let place := table.physical connection.environment
    let before := view state
    let after := view ((table.validate connection action).run server faults state).state
    Catalog.Spares table place action before after ∧
      ∀ live, before.table? place = some live → ∀ column ∈ live.columns,
        column.name ∉ table.fieldNames →
        ∃ changed, after.table? place = some changed ∧ column ∈ changed.columns := by
  intro place before after
  have spares : Catalog.Spares table place action before after :=
    (secures_validate obeys connection table action state).run faults
  refine ⟨spares, fun live found column member undeclared => ?_⟩
  obtain ⟨changed, there, spared⟩ := spares.tableKept live found
  obtain ⟨index, at_index⟩ := List.mem_iff_getElem?.mp member
  obtain ⟨new, foundNew, sparedNew⟩ := spared.columns index column at_index
  obtain rfl := sparedNew.eq_of_undeclared undeclared
  exact ⟨changed, there, List.mem_of_getElem? foundNew⟩

/-- A catalog with postal codes in disrepair whose primary key is a column that is not declared. -/
def remarkedZipCodes : Catalog :=
  ⟨fun schema => if schema = School.institution then some fun table =>
      if table = "zip_code" then
        LiveTable.ofParts?
          [⟨"city", "integer", true⟩, ⟨"remark", "xml", false⟩, ⟨"zip_code", "varchar", true⟩]
          ["remark"]
      else none
    else none⟩

/-- A repair of these postal codes that fails at its fifth statement leaves the column that is not
declared and the primary key. -/
theorem remarks_survive_a_failing_repair :
    Obeys Catalog.failingServer Prod.fst ∧
      ∃ error changed,
        let run := (School.zipCode.validate (.usable .production none)
          .buildOrRepairIfInvalid).run Catalog.failingServer
            (Connection.faults (.usable .production none) School.zipCode) (remarkedZipCodes, 4)
        run.ending = .result (.error error) ∧ run.statements.length = 5 ∧
          run.state.1.table? (School.zipCode.physical .production) = some changed ∧
          changed.key = ["remark"] ∧ ⟨"remark", "xml", false⟩ ∈ changed.columns := by
  obtain ⟨spares, undeclared⟩ := validations_destroy_nothing Catalog.obeys_failingServer
    (.usable .production none) School.zipCode .buildOrRepairIfInvalid
    (Connection.faults (.usable .production none) School.zipCode) (remarkedZipCodes, 4)
  obtain ⟨live, found, key, columns⟩ : ∃ live,
      remarkedZipCodes.table? (School.zipCode.physical .production) = some live ∧
      live.key = ["remark"] ∧ ⟨"remark", "xml", false⟩ ∈ live.columns :=
    ⟨_, rfl, rfl, by simp⟩
  obtain ⟨changed, there, spared⟩ := spares.tableKept live found
  obtain ⟨again, thereAgain, member⟩ := undeclared live found _ columns (by decide +kernel)
  cases there.symm.trans thereAgain
  refine ⟨Catalog.obeys_failingServer, _, changed, rfl, rfl, there, ?_, member⟩
  exact (spared.key.eq_of_ne_nil (by simp [key])).trans key

end Validation

end TableStore
