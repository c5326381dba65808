import TableStore.Proofs.Validation.Replies

/-!
# Checking without changing

A table conforms to its declaration when its schema and the table are there, every field has a
column of its type and nullability, and the key is the declared one; the last report of a column
counts. Each of these conditions can fail on its own, and the failed ones have an order.

A check that may change nothing finds a table valid exactly when it conforms. Otherwise it names
each failed condition once, in order. It sends nothing but queries of the catalog.
-/

namespace TableStore.Validation

open Server Sql

namespace Replies

variable (replies : Replies) (table : Table)

/-- Whether the last report of a column with a name gives it a type and a nullability. -/
def Reports (name type nullability : String) : Prop :=
  ∃ earlier later, replies.columns = earlier ++ (name, type, nullability) :: later ∧
    ∀ report ∈ later, report.1 ≠ name

/-- Whether the live structure is as declared. -/
structure Conforms : Prop where
  schemaFound : replies.schemaThere = true
  tableFound : replies.tableThere = true
  columnsAgree : ∀ field ∈ table.fields, ∃ type nullability,
    replies.Reports field.name type nullability ∧
      ValueType.ofLiveName? type = some field.type ∧
      (Environment.foldCase nullability = "yes" ↔ field.isNullable = true)
  keyAgrees : replies.key = table.keyNames

/-- Whether a condition fails. A table of a missing schema is missing, and columns and key are
only looked at when the table is there. -/
inductive Fails : Discrepancy → Prop where
  | schema (missing : replies.schemaThere = false) : Fails .schemaMissing
  | table (missing : replies.isPresent = false) : Fails .tableMissing
  | column {field : Field} (present : replies.isPresent = true) (declared : field ∈ table.fields)
      (missing : ∀ report ∈ replies.columns, report.1 ≠ field.name) :
      Fails (.columnMissing field)
  | type {field : Field} {type nullability : String} (present : replies.isPresent = true)
      (declared : field ∈ table.fields) (reported : replies.Reports field.name type nullability)
      (differs : ValueType.ofLiveName? type ≠ some field.type) : Fails (.wrongType field type)
  | nullability {field : Field} {type nullability : String} (present : replies.isPresent = true)
      (declared : field ∈ table.fields) (reported : replies.Reports field.name type nullability)
      (differs : ¬(Environment.foldCase nullability = "yes" ↔ field.isNullable = true)) :
      Fails (.wrongNullability field)
  | key (present : replies.isPresent = true) (differs : replies.key ≠ table.keyNames) :
      Fails (.wrongKey replies.key)

/-- The queries that a check asks. -/
def questions (name : TableName) : List CatalogQuery :=
  .schemaExists name.schema ::
    ((if replies.schemaThere then [.tableExists name] else []) ++
      if replies.isPresent then [.columns name, .primaryKey name] else [])

/-- A server that gives the replies to the queries of the catalog and fails at everything else. -/
def server : Backend Unit := fun _ statement =>
  match statement with
  | .catalog query => (.answer ⟨[], replies.rows query, 0⟩, ())
  | _ => (.failure, ())

end Replies

/-- The place of a discrepancy among those of a table: the schema, the table, the fields in order
with type before nullability, and the key. -/
def Discrepancy.place (table : Table) : Discrepancy → Nat
  | .schemaMissing => 0
  | .tableMissing => 1
  | .columnMissing field => 2 + 3 * (table.fieldIndex? field.name).getD 0
  | .wrongType field _ => 3 + 3 * (table.fieldIndex? field.name).getD 0
  | .wrongNullability field => 4 + 3 * (table.fieldIndex? field.name).getD 0
  | .wrongKey _ => 2 + 3 * table.fieldCount

/-! ## The last report of a column -/

variable {replies : Replies} {table : Table}

namespace Replies

theorem reports_iff {name type nullability : String} :
    replies.Reports name type nullability ↔
      replies.columns.reverse.find? (fun report => report.1 == name) =
        some (name, type, nullability) := by
  rw [List.find?_eq_some_iff_append]
  constructor
  · rintro ⟨earlier, later, columns, last⟩
    refine ⟨beq_self_eq_true _, later.reverse, earlier.reverse, by simp [columns], ?_⟩
    intro report member
    simpa using last report (List.mem_reverse.mp member)
  · rintro ⟨-, later, earlier, columns, last⟩
    refine ⟨earlier.reverse, later.reverse, ?_, ?_⟩
    · rw [← List.reverse_reverse replies.columns, columns]
      simp
    · intro report member
      simpa using last report (List.mem_reverse.mp member)

theorem liveColumn?_map_ofReport (name : String) :
    liveColumn? (replies.columns.map LiveColumn.ofReport) name =
      (replies.columns.reverse.find? fun report => report.1 == name).map
        LiveColumn.ofReport := by
  rw [liveColumn?, ← List.map_reverse, List.find?_map]
  rfl

theorem liveColumn?_eq_none_iff {name : String} :
    liveColumn? (replies.columns.map LiveColumn.ofReport) name = none ↔
      ∀ report ∈ replies.columns, report.1 ≠ name := by
  rw [liveColumn?_map_ofReport, Option.map_eq_none_iff, List.find?_eq_none]
  simp

theorem liveColumn?_eq_some_iff {name : String} {column : LiveColumn} :
    liveColumn? (replies.columns.map LiveColumn.ofReport) name = some column ↔
      ∃ type nullability, replies.Reports name type nullability ∧
        LiveColumn.ofReport (name, type, nullability) = column := by
  rw [liveColumn?_map_ofReport, Option.map_eq_some_iff]
  constructor
  · rintro ⟨⟨reported, type, nullability⟩, found, rfl⟩
    have same : reported = name := by simpa using List.find?_some found
    subst same
    exact ⟨type, nullability, reports_iff.mpr found, rfl⟩
  · rintro ⟨type, nullability, reported, rfl⟩
    exact ⟨_, reports_iff.mp reported, rfl⟩

theorem Reports.unique {name type nullability otherType otherNullability : String}
    (first : replies.Reports name type nullability)
    (second : replies.Reports name otherType otherNullability) :
    type = otherType ∧ nullability = otherNullability := by
  have same := (reports_iff.mp first).symm.trans (reports_iff.mp second)
  simpa using same

end Replies

/-! ## Failed conditions -/

theorem holdsIn_iff {type : ValueType} {reported : String} :
    type.holdsIn reported = true ↔ ValueType.ofLiveName? reported = some type :=
  beq_iff_eq

theorem mem_columnDiscrepancies_some {field : Field} {column : LiveColumn}
    {discrepancy : Discrepancy} :
    discrepancy ∈ columnDiscrepancies field (some column) ↔
      (discrepancy = .wrongType field column.type ∧
          ValueType.ofLiveName? column.type ≠ some field.type) ∨
        (discrepancy = .wrongNullability field ∧ column.isNullable ≠ field.isNullable) := by
  rw [columnDiscrepancies, List.mem_append, ← holdsIn_iff.ne]
  by_cases holds : field.type.holdsIn column.type = true <;>
    by_cases same : column.isNullable = field.isNullable <;> simp [holds, same]

/-- The discrepancies of the column of a field are the conditions on it that fail. -/
theorem mem_columnDiscrepancies_iff {field : Field} {discrepancy : Discrepancy}
    (present : replies.isPresent = true) (declared : field ∈ table.fields) :
    discrepancy ∈ columnDiscrepancies field
        (liveColumn? (replies.columns.map LiveColumn.ofReport) field.name) ↔
      replies.Fails table discrepancy ∧
        (discrepancy = .columnMissing field ∨ (∃ type, discrepancy = .wrongType field type) ∨
          discrepancy = .wrongNullability field) := by
  cases found : liveColumn? (replies.columns.map LiveColumn.ofReport) field.name with
  | none =>
      have missing := Replies.liveColumn?_eq_none_iff.mp found
      have unreported : ∀ {type nullability}, ¬replies.Reports field.name type nullability := by
        intro type nullability reported
        rw [Replies.liveColumn?_eq_some_iff.mpr ⟨_, _, reported, rfl⟩] at found
        cases found
      rw [columnDiscrepancies, List.mem_singleton]
      constructor
      · rintro rfl
        exact ⟨.column present declared missing, .inl rfl⟩
      · rintro ⟨fails, rfl | ⟨type, rfl⟩ | rfl⟩
        · rfl
        · cases fails with
          | type _ _ reported _ => exact absurd reported unreported
        · cases fails with
          | nullability _ _ reported _ => exact absurd reported unreported
  | some column =>
      obtain ⟨type, nullability, reported, rfl⟩ := Replies.liveColumn?_eq_some_iff.mp found
      have agrees : (LiveColumn.ofReport (field.name, type, nullability)).isNullable =
          field.isNullable ↔
          (Environment.foldCase nullability = "yes" ↔ field.isNullable = true) := by
        rw [Bool.eq_iff_iff, LiveColumn.ofReport, beq_iff_eq]
      rw [mem_columnDiscrepancies_some]
      constructor
      · rintro (⟨rfl, differs⟩ | ⟨rfl, differs⟩)
        · exact ⟨.type present declared reported differs, .inr (.inl ⟨type, rfl⟩)⟩
        · exact ⟨.nullability present declared reported (agrees.not.mp differs),
            .inr (.inr rfl)⟩
      · rintro ⟨fails, rfl | ⟨other, rfl⟩ | rfl⟩
        · cases fails with
          | column _ _ missing =>
              rw [Replies.liveColumn?_eq_none_iff.mpr missing] at found
              cases found
        · cases fails with
          | type _ _ again differs =>
              obtain ⟨rfl, rfl⟩ := reported.unique again
              exact .inl ⟨rfl, differs⟩
        · cases fails with
          | nullability _ _ again differs =>
              obtain ⟨rfl, rfl⟩ := reported.unique again
              exact .inr ⟨rfl, agrees.not.mpr differs⟩

theorem mem_keyDiscrepancies_iff {key : List String} {discrepancy : Discrepancy} :
    discrepancy ∈ keyDiscrepancies table key ↔
      discrepancy = .wrongKey key ∧ key ≠ table.keyNames := by
  rw [keyDiscrepancies]
  by_cases same : key = table.keyNames <;> simp [same]

namespace Replies

/-- The discrepancies are the conditions that fail. -/
theorem mem_discrepancies_iff {discrepancy : Discrepancy} :
    discrepancy ∈ replies.discrepancies table ↔ replies.Fails table discrepancy := by
  rw [discrepancies, List.mem_append]
  constructor
  · rintro (schema | rest)
    · cases there : replies.schemaThere with
      | true => simp [schemaDiscrepancies, there] at schema
      | false =>
          simp only [schemaDiscrepancies, there, Bool.false_eq_true, if_false,
            List.mem_singleton] at schema
          subst schema
          exact .schema there
    · cases present : replies.isPresent with
      | false =>
          simp only [present, Bool.false_eq_true, if_false, List.mem_singleton] at rest
          subst rest
          exact .table present
      | true =>
          rw [present, if_pos rfl, List.mem_append, columnsDiscrepancies,
            Validation.columnsDiscrepancies, List.mem_flatMap, mem_keyDiscrepancies_iff] at rest
          rcases rest with ⟨field, declared, member⟩ | ⟨rfl, differs⟩
          · exact ((mem_columnDiscrepancies_iff present declared).mp member).1
          · exact .key present differs
  · intro fails
    have ofField : ∀ {field : Field}, replies.isPresent = true → field ∈ table.fields →
        (discrepancy = .columnMissing field ∨ (∃ type, discrepancy = .wrongType field type) ∨
          discrepancy = .wrongNullability field) →
        discrepancy ∈ if replies.isPresent then
            replies.columnsDiscrepancies table ++ keyDiscrepancies table replies.key
          else [.tableMissing] := by
      intro field present declared kind
      rw [present, if_pos rfl]
      apply List.mem_append_left
      exact List.mem_flatMap.mpr
        ⟨field, declared, (mem_columnDiscrepancies_iff present declared).mpr ⟨fails, kind⟩⟩
    cases fails with
    | schema missing => exact .inl (by simp [schemaDiscrepancies, missing])
    | table missing => exact .inr (by simp [missing])
    | column present declared _ => exact .inr (ofField present declared (.inl rfl))
    | type present declared _ _ => exact .inr (ofField present declared (.inr (.inl ⟨_, rfl⟩)))
    | nullability present declared _ _ => exact .inr (ofField present declared (.inr (.inr rfl)))
    | key present differs =>
        rw [present, if_pos rfl]
        exact .inr (List.mem_append_right _ (mem_keyDiscrepancies_iff.mpr ⟨rfl, differs⟩))

/-- A table conforms exactly when no condition fails. -/
theorem conforms_iff : replies.Conforms table ↔ replies.discrepancies table = [] := by
  rw [List.eq_nil_iff_forall_not_mem]
  simp only [mem_discrepancies_iff]
  constructor
  · intro conforms discrepancy fails
    have present : replies.isPresent = true := by
      rw [isPresent, conforms.schemaFound, conforms.tableFound]
      rfl
    cases fails with
    | schema missing => simp [conforms.schemaFound] at missing
    | table missing => simp [present] at missing
    | column _ declared missing =>
        obtain ⟨type, nullability, reported, -⟩ := conforms.columnsAgree _ declared
        have found := liveColumn?_eq_some_iff.mpr ⟨type, nullability, reported, rfl⟩
        rw [liveColumn?_eq_none_iff.mpr missing] at found
        cases found
    | type _ declared reported differs =>
        obtain ⟨type, nullability, again, sameType, -⟩ := conforms.columnsAgree _ declared
        obtain ⟨rfl, rfl⟩ := reported.unique again
        exact differs sameType
    | nullability _ declared reported differs =>
        obtain ⟨type, nullability, again, -, same⟩ := conforms.columnsAgree _ declared
        obtain ⟨rfl, rfl⟩ := reported.unique again
        exact differs same
    | key _ differs => exact differs conforms.keyAgrees
  · intro none_fails
    have present : replies.isPresent = true := by
      by_contra absent
      exact none_fails _ (.table (Bool.eq_false_iff.mpr absent))
    obtain ⟨schemaFound, tableFound⟩ := Bool.and_eq_true_iff.mp present
    refine ⟨schemaFound, tableFound, fun field declared => ?_, ?_⟩
    · cases found : liveColumn? (replies.columns.map LiveColumn.ofReport) field.name with
      | none =>
          have missing := liveColumn?_eq_none_iff.mp found
          exact absurd (.column present declared missing) (none_fails _)
      | some column =>
          obtain ⟨type, nullability, reported, -⟩ := liveColumn?_eq_some_iff.mp found
          refine ⟨type, nullability, reported, ?_, ?_⟩
          · by_contra differs
            exact none_fails _ (.type present declared reported differs)
          · by_contra differs
            exact none_fails _ (.nullability present declared reported differs)
    · by_contra differs
      exact none_fails _ (.key present differs)

end Replies

/-! ## Order -/

theorem place_columnDiscrepancies {index : Nat} {field : Field}
    (found : table.fields[index]? = some field) {column? : Option LiveColumn}
    {discrepancy : Discrepancy} (member : discrepancy ∈ columnDiscrepancies field column?) :
    2 + 3 * index ≤ discrepancy.place table ∧ discrepancy.place table ≤ 4 + 3 * index := by
  have position := Table.fieldIndex?_eq_some found
  cases column? with
  | none =>
      rw [columnDiscrepancies, List.mem_singleton] at member
      subst member
      simp [Discrepancy.place, position]
  | some column =>
      rcases mem_columnDiscrepancies_some.mp member with ⟨rfl, -⟩ | ⟨rfl, -⟩ <;>
        simp [Discrepancy.place, position]

theorem pairwise_columnDiscrepancies (field : Field) (column? : Option LiveColumn) :
    (columnDiscrepancies field column?).Pairwise fun a b => a.place table < b.place table := by
  cases column? with
  | none => exact List.pairwise_singleton ..
  | some column =>
      rw [columnDiscrepancies]
      by_cases holds : field.type.holdsIn column.type = true <;>
        by_cases same : column.isNullable = field.isNullable <;>
          simp [holds, same, Discrepancy.place]

/-- The discrepancies of the columns stand in the order of the fields. -/
theorem pairwise_columnsDiscrepancies (columns : List LiveColumn) :
    (columnsDiscrepancies table columns).Pairwise fun a b =>
      a.place table < b.place table := by
  rw [columnsDiscrepancies, List.pairwise_flatMap]
  constructor
  · exact fun field _ => pairwise_columnDiscrepancies field _
  · rw [List.pairwise_iff_getElem]
    intro i j iBound jBound less first firstMem second secondMem
    have before := place_columnDiscrepancies (List.getElem?_eq_getElem iBound) firstMem
    have after := place_columnDiscrepancies (List.getElem?_eq_getElem jBound) secondMem
    omega

theorem place_columnsDiscrepancies {columns : List LiveColumn} {discrepancy : Discrepancy}
    (member : discrepancy ∈ columnsDiscrepancies table columns) :
    2 ≤ discrepancy.place table ∧ discrepancy.place table < 2 + 3 * table.fieldCount := by
  obtain ⟨field, declared, member⟩ := List.mem_flatMap.mp member
  obtain ⟨index, bound, rfl⟩ := List.getElem_of_mem declared
  have place := place_columnDiscrepancies (List.getElem?_eq_getElem bound) member
  rw [Table.fieldCount]
  omega

theorem wrongKey_notMem_columnsDiscrepancies {columns : List LiveColumn} (key : List String) :
    .wrongKey key ∉ columnsDiscrepancies table columns := fun member =>
  Nat.lt_irrefl _ (place_columnsDiscrepancies member).2

/-- The discrepancies stand in their order, each once. -/
theorem Replies.pairwise_discrepancies :
    (replies.discrepancies table).Pairwise fun a b => a.place table < b.place table := by
  rw [discrepancies, List.pairwise_append]
  refine ⟨?_, ?_, ?_⟩
  · unfold schemaDiscrepancies
    split <;> simp
  · cases replies.isPresent with
    | false => simp
    | true =>
        rw [if_pos rfl, List.pairwise_append]
        refine ⟨pairwise_columnsDiscrepancies _, ?_, ?_⟩
        · unfold keyDiscrepancies
          split <;> simp
        · intro first firstMem second secondMem
          obtain ⟨rfl, -⟩ := mem_keyDiscrepancies_iff.mp secondMem
          exact (place_columnsDiscrepancies firstMem).2
  · intro first firstMem second secondMem
    have isSchema : first = .schemaMissing := by
      unfold schemaDiscrepancies at firstMem
      split at firstMem <;> simp_all
    subst isSchema
    cases present : replies.isPresent with
    | false =>
        rw [present, if_neg Bool.false_ne_true, List.mem_singleton] at secondMem
        subst secondMem
        exact Nat.zero_lt_one
    | true =>
        rw [present, if_pos rfl, List.mem_append] at secondMem
        rcases secondMem with column | key
        · exact Nat.lt_of_lt_of_le Nat.zero_lt_two (place_columnsDiscrepancies column).1
        · obtain ⟨rfl, -⟩ := mem_keyDiscrepancies_iff.mp key
          simp [Discrepancy.place]

/-! ## Checks -/

theorem remedies_eq_nil {environment : Environment} {action : Action}
    {discrepancies : List Discrepancy}
    (left : ∀ discrepancy ∈ discrepancies, discrepancy.remedy? table environment action = none) :
    remedies table environment action discrepancies = [] :=
  List.filterMap_eq_nil_iff.mpr left

theorem leftovers_eq_self {environment : Environment} {action : Action}
    {discrepancies : List Discrepancy}
    (left : ∀ discrepancy ∈ discrepancies, discrepancy.remedy? table environment action = none) :
    leftovers table environment action discrepancies = discrepancies :=
  List.filter_eq_self.mpr fun discrepancy member => by rw [left discrepancy member]; rfl

/-- Under a check every discrepancy is left. -/
theorem remedy?_checkOnly (environment : Environment) (discrepancy : Discrepancy) :
    discrepancy.remedy? table environment .checkOnly = none := by
  cases discrepancy with
  | wrongKey live => simp [Discrepancy.remedy?, Action.repairs]
  | _ => rfl

/-- Where every discrepancy is left, nothing is sent but the questions. -/
theorem Replies.statements_eq {environment : Environment} {action : Action}
    (left : ∀ discrepancy ∈ replies.discrepancies table,
      discrepancy.remedy? table environment action = none) :
    replies.statements table environment action =
      (replies.questions (table.physical environment)).map .catalog := by
  have among := remedies_eq_nil left
  rw [discrepancies, remedies_append, List.append_eq_nil_iff] at among
  obtain ⟨schema, rest⟩ := among
  unfold statements questions
  cases present : replies.isPresent with
  | true =>
      rw [present, if_pos rfl, remedies_append, List.append_eq_nil_iff] at rest
      obtain ⟨columns, key⟩ := rest
      simp only [schema, columns, key, if_true]
      cases replies.schemaThere <;> rfl
  | false =>
      rw [present, if_neg Bool.false_ne_true] at rest
      simp only [schema, rest, Bool.false_eq_true, if_false]
      cases replies.schemaThere <;> rfl

theorem Replies.given_server (replies : Replies) (name : TableName) :
    replies.Given replies.server name fun _ => True :=
  fun _ _ _ _ => ⟨_, _, rfl, rfl, trivial⟩

/-- The run of a validation that leaves every discrepancy in the replies. -/
theorem exists_run_validate {State : Type} {server : Backend State} {good : State → Prop}
    {environment : Environment} {action : Action} (limit : Option Duration) (faults : Faults)
    (given : replies.Given server (table.physical environment) good) {state : State}
    (initially : good state)
    (left : ∀ discrepancy ∈ replies.discrepancies table,
      discrepancy.remedy? table environment action = none) :
    ∃ final, good final ∧
      (table.validate (.usable environment limit) action).run server faults state =
        ⟨.result (.ok (Report.finish ⟨replies.discrepancies table, []⟩ table environment
          replies.isPresent)),
          (replies.questions (table.physical environment)).map .catalog, final⟩ := by
  have answered : Answered server good
      (remedies table environment action (replies.discrepancies table)) := by
    rw [remedies_eq_nil left]
    simp [Answered]
  obtain ⟨final, holds, ends⟩ := exists_ends_validate limit given initially answered
  refine ⟨final, holds, ?_⟩
  rw [ends.run_eq, Replies.statements_eq left, Report.settled, remedies_eq_nil left,
    leftovers_eq_self left]
  rfl

/-- A check asks its questions and changes nothing. It finds the table valid exactly when it
conforms to its declaration; its errors are the messages of the conditions that fail, each once,
in order. -/
theorem check_sound_and_complete (replies : Replies) (table : Table) (environment : Environment)
    (limit : Option Duration) (faults : Faults) :
    ∃ (failures : List Discrepancy) (status : TableStatus),
      (table.validate (.usable environment limit) .checkOnly).run replies.server faults () =
        ⟨.result (.ok status),
          (replies.questions (table.physical environment)).map .catalog, ()⟩ ∧
      (∀ discrepancy, discrepancy ∈ failures ↔ replies.Fails table discrepancy) ∧
      failures.Pairwise (fun a b => a.place table < b.place table) ∧
      status.result.errors = failures.map (·.message table environment) ∧
      status.result.actionsTaken = [] ∧
      (status.result.status = .valid ↔ replies.Conforms table) ∧
      (status.validity = .valid ↔ replies.Conforms table) := by
  obtain ⟨⟨⟩, -, run⟩ := exists_run_validate limit faults
    (replies.given_server (table.physical environment)) trivial
    fun discrepancy _ => remedy?_checkOnly environment discrepancy
  refine ⟨_, _, run, fun _ => Replies.mem_discrepancies_iff, Replies.pairwise_discrepancies, rfl,
    rfl, ?_, ?_⟩
  · rw [Replies.conforms_iff]
    simp [Report.finish, Report.status]
  · rw [Replies.conforms_iff]
    by_cases conforms : replies.discrepancies table = [] <;>
      by_cases present : replies.isPresent = true <;>
        simp [Report.finish, Report.validity, conforms, present]

end TableStore.Validation
