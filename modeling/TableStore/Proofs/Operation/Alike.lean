import TableStore.Proofs.Operation.Basic
import TableStore.Proofs.Selection.Assembly
import TableStore.Proofs.Table.Alike
import TableStore.Proofs.Updates

/-!
# Operations on tables that stand for each other

Records, updates and selections stand for each other when their tables do and they have one content.
Where tables stand for each other, the same arguments build records, updates and selections that do
so too, and every statement is the same for all of them. So an insertion or an update may mix them:
it sends the same and ends in the same way.
-/

namespace TableStore

open Server Sql

/-- Whether outcomes agree: both are errors, or both give something, and the one stands for the
other. -/
inductive Agree {α : Type} (alike : α → α → Prop) : Except Error α → Except Error α → Prop
  | ok {x y : α} (same : alike x y) : Agree alike (.ok x) (.ok y)
  | error (first second : Error) : Agree alike (.error first) (.error second)

theorem Agree.of_transfer {α : Type} {alike : α → α → Prop} {first second : Except Error α}
    (forward : ∀ x, first = .ok x → ∃ y, second = .ok y ∧ alike x y)
    (backward : ∀ y, second = .ok y → ∃ x, first = .ok x ∧ alike y x) :
    Agree alike first second := by
  cases first with
  | ok x =>
      rcases forward x rfl with ⟨y, rfl, same⟩
      exact .ok same
  | error error =>
      cases second with
      | ok y =>
          rcases backward y rfl with ⟨x, failed, -⟩
          cases failed
      | error other => exact .error error other

variable {a b : Table}

/-! ## Records -/

/-- Whether a record stands for another. -/
structure Record.Alike (a b : Record) : Prop where
  tables : a.table.Alike b.table
  values : a.values = b.values

theorem Record.Alike.valueNamed?_eq {record other : Record} (same : record.Alike other)
    (name : String) : record.valueNamed? name = other.valueNamed? name := by
  rw [valueNamed?, valueNamed?, same.tables.fieldIndex?_eq]
  unfold value?
  rw [same.values]

namespace Table.Alike

/-- A record of one table can be built of the other. -/
theorem exists_record (alike : a.Alike b) {values : List (Option Value)} {record : Record}
    (built : Record.build a values = .ok record) :
    ∃ other, Record.build b values = .ok other ∧ record.Alike other := by
  rcases Record.checked_eq_ok_iff.mp built with ⟨fits, rfl, filled, suits⟩
  have length := alike.length_fields_eq
  have filledAlso : record.values = Record.fill b values := by
    rw [filled, Record.fill, Record.fill, length]
  have suitsAlso := (alike.suits_iff record.values).mp suits
  refine ⟨⟨b, record.values, record.aligned.trans length⟩, ?_, alike, rfl⟩
  exact Record.checked_eq_ok_iff.mpr ⟨fits.trans_eq length, rfl, filledAlso, suitsAlso⟩

theorem agree_record (alike : a.Alike b) (values : List (Option Value)) :
    Agree Record.Alike (Record.build a values) (Record.build b values) :=
  .of_transfer (fun _ => alike.exists_record) fun _ => alike.symm.exists_record

/-- Records that stand for each other have one row of literals. -/
theorem row_eq (alike : a.Alike b) {record other : Record} (same : record.Alike other) :
    a.row record = b.row other := by
  rw [row, row]
  simp only [same.valueNamed?_eq]
  exact alike.map_outline_eq fun outline =>
    (Field.ofOutline outline).literal (other.valueNamed? outline.1)

theorem insertion?_eq (alike : a.Alike b) {records others : List Record}
    (same : List.Forall₂ Record.Alike records others) (environment : Environment) :
    a.insertion? environment records = b.insertion? environment others := by
  have rows : records.map a.row = others.map b.row := by
    induction same with
    | nil => rfl
    | cons first _ ih => rw [List.map_cons, List.map_cons, alike.row_eq first, ih]
  cases same with
  | nil => rfl
  | cons => simp only [insertion?, alike.physical_eq, alike.fieldNames_eq, rows]

end Table.Alike

/-! ## Selections -/

/-- Whether a selection stands for another. -/
structure Selection.Alike (a b : Selection) : Prop where
  tables : a.table.Alike b.table
  criteria : a.criteria = b.criteria

theorem Table.Alike.exists_selection (alike : a.Alike b) {criteria : List Criterion}
    {selection : Selection} (built : Selection.build a criteria = .ok selection) :
    ∃ other, Selection.build b criteria = .ok other ∧ selection.Alike other := by
  rcases Selection.build_eq_ok_iff.mp built with ⟨rfl, rfl⟩
  have bound (criterion : Criterion) (member : criterion ∈ selection.criteria) :
      b.contains criterion.field = true := by
    rw [← alike.contains_eq]
    exact selection.bound criterion member
  exact ⟨⟨b, selection.criteria, bound⟩, Selection.build_eq_ok_iff.mpr ⟨rfl, rfl⟩, alike, rfl⟩

theorem Table.Alike.agree_selection (alike : a.Alike b) (criteria : List Criterion) :
    Agree Selection.Alike (Selection.build a criteria) (Selection.build b criteria) :=
  .of_transfer (fun _ => alike.exists_selection) fun _ => alike.symm.exists_selection

namespace Selection.Alike

variable {selection other : Selection} (same : selection.Alike other) (environment : Environment)

include same

theorem conditions_eq : selection.conditions = other.conditions := by
  rw [conditions, conditions, same.criteria]

theorem counting_eq : selection.counting environment = other.counting environment := by
  rw [counting, counting, same.tables.physical_eq, same.conditions_eq]

theorem reading_eq : selection.reading environment = other.reading environment := by
  rw [reading, reading, same.tables.physical_eq, same.tables.fieldNames_eq,
    same.tables.keyNames_eq, same.conditions_eq]

theorem deletion_eq : selection.deletion environment = other.deletion environment := by
  rw [deletion, deletion, same.tables.physical_eq, same.conditions_eq]

end Selection.Alike

/-! ## Updates -/

/-- Whether an update stands for another. -/
structure Updates.Alike (a b : Updates) : Prop where
  tables : a.table.Alike b.table
  updates : a.updates = b.updates

theorem Table.Alike.exists_updates (alike : a.Alike b) {given : List Assignment}
    {updates : Updates} (built : Updates.build a given = .ok updates) :
    ∃ other, Updates.build b given = .ok other ∧ updates.Alike other := by
  rcases Updates.build_eq_ok_iff.mp built with ⟨assignable, rfl, entries⟩
  have entriesAlso : updates.updates = b.fields.map (Updates.updateOf given) := by
    rw [entries]
    exact alike.map_outline_eq fun outline => Updates.updateOf given (Field.ofOutline outline)
  have assignableAlso : Updates.IsAssignable b given := by
    constructor
    · exact assignable.ne_nil
    · intro assignment member
      apply (alike.exists_accepting_iff assignment.1 assignment.2).mp
      exact assignable.suits assignment member
    · exact assignable.nodup
  refine ⟨⟨b, updates.updates, updates.aligned.trans alike.length_fields_eq⟩, ?_, alike, rfl⟩
  exact Updates.build_eq_ok_iff.mpr ⟨assignableAlso, rfl, entriesAlso⟩

theorem Table.Alike.agree_updates (alike : a.Alike b) (given : List Assignment) :
    Agree Updates.Alike (Updates.build a given) (Updates.build b given) :=
  .of_transfer (fun _ => alike.exists_updates) fun _ => alike.symm.exists_updates

namespace Updates.Alike

variable {updates others : Updates} (same : updates.Alike others)

include same

/-- The assignments of an update are made of the outlines of the fields. -/
theorem assignments_eq : updates.assignments = others.assignments := by
  have made (updates : Updates) : updates.assignments =
      ((updates.table.fields.map Field.outline).zip updates.updates).filterMap fun entry =>
        (changeOf? (Field.ofOutline entry.1, entry.2)).map fun change =>
          (change.1.name, change.1.literal change.2) := by
    rw [assignments, changes_eq, List.map_filterMap, List.zip_map_left, List.filterMap_map]
    apply List.filterMap_congr
    rintro ⟨field, update⟩ -
    cases update <;> rfl
  rw [made, made, same.tables.outlines_eq, same.updates]

theorem statement_eq {selection other : Selection} (selections : selection.Alike other)
    (environment : Environment) :
    updates.statement selection environment = others.statement other environment := by
  rw [statement, statement, selections.tables.physical_eq, same.assignments_eq,
    selections.conditions_eq]

end Updates.Alike

/-! ## Insertions and updates -/

/-- The first record of another table stands where it stood. -/
theorem Table.Alike.foreignRecord?_rel (alike : a.Alike b) {records others : List Record}
    (same : List.Forall₂ Record.Alike records others) :
    Option.Rel Record.Alike (a.foreignRecord? records) (b.foreignRecord? others) := by
  unfold foreignRecord?
  induction same with
  | nil => exact .none
  | cons first _ ih =>
      rw [List.find?_cons, List.find?_cons, first.tables.sameAs_eq alike]
      split
      · exact .some first
      · exact ih

/-- What stands for each other is inserted in the same way. -/
theorem Table.Alike.insert_eq (alike : a.Alike b) {records others : List Record}
    (same : List.Forall₂ Record.Alike records others) (connection : Connection) :
    a.insert connection records = b.insert connection others := by
  have foreign := alike.foreignRecord?_rel same
  rw [insert, insert, alike.insertion?_eq same, alike.qualifiedName_eq]
  generalize a.foreignRecord? records = first at foreign
  generalize b.foreignRecord? others = second at foreign
  cases foreign with
  | none => rfl
  | some same =>
      dsimp only
      rw [same.tables.qualifiedName_eq]

theorem Table.Alike.faults_eq (alike : a.Alike b) (connection : Connection) :
    connection.faults a = connection.faults b := by
  unfold Connection.faults Connection.failure Connection.lateness?
  rw [alike.qualifiedName_eq]

theorem Updates.Alike.apply_eq {updates others : Updates} (same : updates.Alike others)
    {selection other : Selection} (selections : selection.Alike other) (connection : Connection) :
    updates.apply connection selection = others.apply connection other := by
  rw [apply, apply, same.tables.sameAs_eq selections.tables,
    same.statement_eq selections connection.environment, same.tables.qualifiedName_eq,
    selections.tables.qualifiedName_eq]

/-- What can be exchanged for a table that stands for another. The fields that a statement about one
column is given need only stand for each other. -/
structure Table.Interchangeable (a b : Table) : Prop where
  contains : ∀ field, a.contains field = b.contains field
  records : ∀ values, Agree Record.Alike (Record.build a values) (Record.build b values)
  selections : ∀ criteria, Agree Selection.Alike (Selection.build a criteria)
    (Selection.build b criteria)
  updates : ∀ given, Agree Updates.Alike (Updates.build a given) (Updates.build b given)
  schemaCreation : ∀ environment, a.schemaCreation environment = b.schemaCreation environment
  creation : ∀ environment, a.creation environment = b.creation environment
  keyAddition : ∀ environment, a.keyAddition environment = b.keyAddition environment
  columnAddition : ∀ field other environment, Field.Alike field other →
    a.columnAddition field environment = b.columnAddition other environment
  typeAlteration : ∀ field other environment, Field.Alike field other →
    a.typeAlteration field environment = b.typeAlteration other environment
  nullabilityAlteration : ∀ field other environment, Field.Alike field other →
    a.nullabilityAlteration field environment = b.nullabilityAlteration other environment
  insertion : ∀ records others environment, List.Forall₂ Record.Alike records others →
    a.insertion? environment records = b.insertion? environment others
  insert : ∀ {State : Type} (server : Backend State) connection records others state,
    List.Forall₂ Record.Alike records others →
      (Operation.insert a records).run server connection state =
        (Operation.insert b others).run server connection state

/-- What can be exchanged for a selection that stands for another. -/
structure Selection.Interchangeable (a b : Selection) : Prop where
  counting : ∀ environment, a.counting environment = b.counting environment
  reading : ∀ environment, a.reading environment = b.reading environment
  deletion : ∀ environment, a.deletion environment = b.deletion environment
  statement : ∀ updates others environment, Updates.Alike updates others →
    updates.statement a environment = others.statement b environment
  update : ∀ {State : Type} (server : Backend State) connection updates others state,
    Updates.Alike updates others →
      (Operation.update updates a).run server connection state =
        (Operation.update others b).run server connection state

theorem Table.Alike.interchangeable (alike : a.Alike b) : a.Interchangeable b where
  contains := alike.contains_eq
  records := alike.agree_record
  selections := alike.agree_selection
  updates := alike.agree_updates
  schemaCreation environment := by
    rw [Table.schemaCreation, Table.schemaCreation, alike.schema_eq]
  creation environment := by
    rw [Table.creation, Table.creation, alike.physical_eq, alike.columns_eq, alike.keyNames_eq]
  keyAddition environment := by
    rw [Table.keyAddition, Table.keyAddition, alike.physical_eq, alike.keyNames_eq]
  columnAddition field other environment fields := by
    rw [Table.columnAddition, Table.columnAddition, alike.physical_eq, fields.column_eq]
  typeAlteration field other environment fields := by
    rw [Table.typeAlteration, Table.typeAlteration, alike.physical_eq, fields.name_eq,
      fields.type_eq]
  nullabilityAlteration field other environment fields := by
    rw [Table.nullabilityAlteration, Table.nullabilityAlteration, alike.physical_eq,
      fields.name_eq, fields.isNullable_eq]
  insertion records others environment same := alike.insertion?_eq same environment
  insert server connection records others state same := by
    change (a.insert connection records).run server (connection.faults a) state =
      (b.insert connection others).run server (connection.faults b) state
    rw [alike.insert_eq same, alike.faults_eq]

theorem Selection.Alike.interchangeable {a b : Selection} (same : a.Alike b) :
    a.Interchangeable b where
  counting := same.counting_eq
  reading := same.reading_eq
  deletion := same.deletion_eq
  statement updates others environment alike := alike.statement_eq same environment
  update server connection updates others state alike := by
    change (updates.apply connection a).run server (connection.faults a.table) state =
      (others.apply connection b).run server (connection.faults b.table) state
    rw [alike.apply_eq same, same.tables.faults_eq]

/-- Sameness of tables is an equivalence where the constraints of the fields are at hand, and tables
that are the same can be exchanged. The same fields belong to them, the same arguments are accepted,
and what is built of them stands for each other in every statement and in what insertions and
updates give. -/
theorem sameness_of_tables_is_congruence :
    (∀ table : Table, table.AtHand → table.sameAs table = true) ∧
    (∀ a b : Table, a.sameAs b = true → b.sameAs a = true) ∧
    (∀ a b c : Table, a.sameAs b = true → b.sameAs c = true → a.sameAs c = true) ∧
    (∀ a b : Table, a.sameAs b = true → a.Interchangeable b) ∧
    ∀ a b : Selection, a.Alike b → a.Interchangeable b := by
  constructor
  · exact fun table => Table.sameAs_refl
  · constructor
    · exact fun a b => Table.sameAs_symm
    · constructor
      · exact fun a b c => Table.sameAs_trans
      · constructor
        · exact fun a b same => Table.Alike.interchangeable (.inr same)
        · exact fun a b => Selection.Alike.interchangeable

/-- Shares by student, from a zero of either sign. -/
def shareTable (negative : Bool) : Table :=
  Declaration.accept
    { shareDeclaration with
      fields := [shareFrom negative, { name := "student", type := .long, role := .partitionKey }] }
    (by cases negative <;> decide +kernel)

/-- The share of a student who has all. -/
def shareRecord (negative : Bool) (student : Int64) : Record :=
  ⟨shareTable negative, [some (.double (.ofRatio false 1 1)), some (.long student)], rfl⟩

theorem shareTable_atHand (negative : Bool) : (shareTable negative).AtHand := by
  have ranged : Constraint.doubleRange "share_range" (.ofMagnitude negative 0) (.ofRatio false 1 1)
      .finiteOnly = .ok ⟨"share_range",
        .doubleRange (.ofMagnitude negative 0) (.ofRatio false 1 1) .finiteOnly⟩ := by
    cases negative <;> decide +kernel
  have atHand := Constraint.AtHand.doubleRange ranged
  simp [Table.AtHand, shareTable, Declaration.accept, shareFrom, atHand]

/-- Tables of shares from zeros of different signs are not equal but the same, and a record of one
is inserted where one of the other is expected. -/
theorem shares_are_exchanged :
    shareTable false ≠ shareTable true ∧
    (shareTable true).sameAs (shareTable true) = true ∧
    (shareTable true).sameAs (shareTable false) = true ∧
    (Selection.all (shareTable false)).Interchangeable (.all (shareTable true)) ∧
    ∀ {State : Type} (server : Backend State) (connection : Connection) (state : State),
      (Operation.insert (shareTable false) [shareRecord true 1, shareRecord false 2]).run server
          connection state =
        (Operation.insert (shareTable true) [shareRecord false 1, shareRecord false 2]).run server
          connection state := by
  rcases sameness_of_tables_is_congruence with ⟨refl, symm, trans, tables, selections⟩
  have same : (shareTable false).sameAs (shareTable true) = true := by decide +kernel
  have turned := symm _ _ same
  constructor
  · decide +kernel
  · constructor
    · exact refl _ (shareTable_atHand true)
    · constructor
      · exact trans _ _ _ turned (refl _ (shareTable_atHand false))
      · constructor
        · exact selections _ _ ⟨.inr same, rfl⟩
        · intro State server connection state
          have records : List.Forall₂ Record.Alike [shareRecord true 1, shareRecord false 2]
              [shareRecord false 1, shareRecord false 2] :=
            .cons ⟨.inr turned, rfl⟩ (.cons ⟨.inl rfl, rfl⟩ .nil)
          exact (tables _ _ same).insert server connection _ _ state records

end TableStore
