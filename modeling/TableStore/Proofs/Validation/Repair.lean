import TableStore.Proofs.Validation.Settling

/-!
# Repairing a live table

A live table conforms to a declaration when its columns and its key show no discrepancy. The
remedies of one field change the column of that field alone, and if none of its discrepancies is
left, the column shows none afterwards. So the fields can be settled one after another, and the
key after them: a key that is added forbids nothing that the declaration allows.
-/

namespace TableStore

open Server Sql Validation

/-- Whether a live table is as declared. -/
structure Server.LiveTable.Conforms (live : LiveTable) (table : Table) : Prop where
  columns : columnsDiscrepancies table live.columns = []
  key : live.key = table.keyNames

theorem ValueType.holdsIn_nativeName (type : ValueType) :
    type.holdsIn type.nativeName = true := by
  cases type <;> decide +kernel

namespace Table

variable {table : Table}

theorem columnsDiscrepancies_eq_nil_iff {columns : List LiveColumn} :
    columnsDiscrepancies table columns = [] ↔
      ∀ field ∈ table.fields, columnDiscrepancies field (liveColumn? columns field.name) = [] :=
  List.flatMap_eq_nil_iff

/-- A field of the key is never empty. -/
theorem isNullable_of_mem_keyNames {field : Field} (declared : field ∈ table.fields)
    (keyed : field.name ∈ table.keyNames) : field.isNullable = false := by
  obtain ⟨own, ownMem, sameName⟩ := List.mem_map.mp keyed
  have isKey : own ∈ table.fields ∧ (own.role = .partitionKey ∨ own.role = .clusteringKey) := by
    rcases List.mem_append.mp ownMem with partition | clustering
    · obtain ⟨member, role⟩ := List.mem_filter.mp partition
      exact ⟨member, .inl (beq_iff_eq.mp role)⟩
    · obtain ⟨member, role⟩ := List.mem_filter.mp clustering
      exact ⟨member, .inr (beq_iff_eq.mp role)⟩
  have same : own = field := by
    have found := fieldNamed?_eq_some isKey.1
    rw [sameName, fieldNamed?_eq_some declared] at found
    exact (Option.some.inj found).symm
  subst same
  rcases isKey.2 with role | role <;> rw [Field.isNullable, role] <;> rfl

end Table

namespace Validation

theorem columnDiscrepancies_some_eq_nil_iff {field : Field} {column : LiveColumn} :
    columnDiscrepancies field (some column) = [] ↔
      field.type.holdsIn column.type = true ∧ column.isNullable = field.isNullable := by
  rw [columnDiscrepancies]
  by_cases holds : field.type.holdsIn column.type = true <;>
    by_cases same : column.isNullable = field.isNullable <;> simp [holds, same]

/-- Whether a table differs from another one at most in the column with a name. -/
structure ChangesOnly (name : String) (live changed : LiveTable) : Prop where
  key : changed.key = live.key
  columns : ∀ other, other ≠ name →
    liveColumn? changed.columns other = liveColumn? live.columns other

theorem ChangesOnly.refl (name : String) (live : LiveTable) : ChangesOnly name live live :=
  ⟨rfl, fun _ _ => rfl⟩

theorem ChangesOnly.trans {name : String} {first second third : LiveTable}
    (before : ChangesOnly name first second) (after : ChangesOnly name second third) :
    ChangesOnly name first third where
  key := after.key.trans before.key
  columns other differs := (after.columns other differs).trans (before.columns other differs)

/-! ## Single changes -/

theorem liveColumn?_addColumn? {live changed : LiveTable} {column : Column}
    (added : live.addColumn? column = some changed) :
    ChangesOnly column.name live changed ∧
      liveColumn? changed.columns column.name = some (newColumn column) := by
  obtain ⟨columns, key⟩ := LiveTable.eq_of_ofParts? added
  constructor
  · constructor
    · exact key
    · intro other differs
      rw [columns, liveColumn?_append]
      exact if_neg differs.symm
  · rw [columns, liveColumn?_append]
    exact if_pos rfl

/-- What is done to a single column is done to the column with its name. -/
theorem liveColumn?_change {live changed : LiveTable} {name : String}
    {change : LiveColumn → LiveColumn} (columns : changed.columns = live.columns.map change)
    (key : changed.key = live.key) (keepsName : ∀ column, (change column).name = column.name)
    (keepsOthers : ∀ column, column.name ≠ name → change column = column) :
    ChangesOnly name live changed ∧
      liveColumn? changed.columns name = (liveColumn? live.columns name).map change := by
  constructor
  · constructor
    · exact key
    · intro other differs
      rw [columns, liveColumn?_map keepsName]
      cases found : liveColumn? live.columns other with
      | none => rfl
      | some column =>
          have named := name_of_liveColumn? found
          rw [Option.map_some, keepsOthers column (named ▸ differs)]
  · rw [columns, liveColumn?_map keepsName]

theorem liveColumn?_retype? {live changed : LiveTable} {name : String} {type : ValueType}
    (retyped : live.retype? name type = some changed) :
    ChangesOnly name live changed ∧
      liveColumn? changed.columns name = (liveColumn? live.columns name).map fun column =>
        { column with type := type.nativeName } := by
  obtain ⟨-, retyped⟩ := Option.ite_none_right_eq_some.mp retyped
  obtain ⟨columns, key⟩ := LiveTable.eq_of_ofParts? retyped
  obtain ⟨only, found⟩ := liveColumn?_change columns key (name_retype name type)
    fun column differs => if_neg differs
  refine ⟨only, found.trans (Option.map_congr fun column columnFound => ?_)⟩
  exact if_pos (name_of_liveColumn? columnFound)

theorem liveColumn?_renull? {live changed : LiveTable} {name : String} {isNullable : Bool}
    (renulled : live.renull? name isNullable = some changed) :
    ChangesOnly name live changed ∧
      liveColumn? changed.columns name = (liveColumn? live.columns name).map fun column =>
        { column with isNullable } := by
  obtain ⟨-, renulled⟩ := Option.ite_none_right_eq_some.mp renulled
  obtain ⟨columns, key⟩ := LiveTable.eq_of_ofParts? renulled
  obtain ⟨only, found⟩ := liveColumn?_change columns key (name_renull [name] isNullable)
    fun column differs => if_neg (by simpa using differs)
  refine ⟨only, found.trans (Option.map_congr fun column columnFound => ?_)⟩
  exact if_pos (List.mem_singleton.mpr (name_of_liveColumn? columnFound))

/-! ## Settling the column of a field -/

variable {table : Table} {environment : Environment} {action : Action} {catalog after : Catalog}
  {live : LiveTable} {field : Field}

/-- A single discrepancy has its remedy executed, or it is left and nothing is executed. -/
theorem executed_singleton {discrepancy : Discrepancy}
    (executed : catalog.executeAll? (remedies table environment action [discrepancy]) =
      some after) :
    (∃ definition, discrepancy.remedy? table environment action = some definition ∧
        catalog.execute? definition = some after) ∨
      (after = catalog ∧ leftovers table environment action [discrepancy] ≠ []) := by
  cases remedy : discrepancy.remedy? table environment action with
  | none =>
      rw [remedies, List.filterMap_cons_none remedy] at executed
      cases executed
      exact .inr ⟨rfl, by simp [leftovers, remedy]⟩
  | some definition =>
      rw [remedies, List.filterMap_cons_some remedy] at executed
      obtain ⟨middle, first, rest⟩ := Option.bind_eq_some_iff.mp executed
      cases rest
      exact .inl ⟨definition, rfl, first⟩

/-- Settling the type of a column changes its type at most, and the type holds the values of the
field unless the discrepancy is left. -/
theorem settle_type (found : catalog.table? (table.physical environment) = some live)
    {column : LiveColumn} (columnFound : liveColumn? live.columns field.name = some column)
    {discrepancies : List Discrepancy}
    (computed : discrepancies =
      if field.type.holdsIn column.type then [] else [.wrongType field column.type])
    (executed : catalog.executeAll? (remedies table environment action discrepancies) =
      some after) :
    ∃ changed type, Catalog.Replaces (table.physical environment) changed catalog after ∧
      ChangesOnly field.name live changed ∧
      liveColumn? changed.columns field.name = some { column with type } ∧
      (leftovers table environment action discrepancies = [] →
        field.type.holdsIn type = true) := by
  by_cases holds : field.type.holdsIn column.type = true
  · rw [computed, if_pos holds] at executed
    cases executed
    exact ⟨live, column.type, .refl found, .refl .., columnFound, fun _ => holds⟩
  · rw [if_neg holds] at computed
    subst computed
    rcases executed_singleton executed with ⟨definition, remedy, executed⟩ | ⟨rfl, left⟩
    · obtain ⟨-, ⟨⟩⟩ := Option.ite_none_right_eq_some.mp remedy
      obtain ⟨changed, made, replaces⟩ := Catalog.replaces_of_alter? found executed
      obtain ⟨only, retyped⟩ := liveColumn?_retype? made
      rw [columnFound] at retyped
      exact ⟨changed, _, replaces, only, retyped, fun _ => field.type.holdsIn_nativeName⟩
    · exact ⟨live, column.type, .refl found, .refl .., columnFound, fun none_left =>
        absurd none_left left⟩

/-- Settling the nullability of a column changes its nullability at most, which is that of the
field unless the discrepancy is left. -/
theorem settle_nullability (found : catalog.table? (table.physical environment) = some live)
    {column : LiveColumn} (columnFound : liveColumn? live.columns field.name = some column)
    {discrepancies : List Discrepancy}
    (computed : discrepancies =
      if column.isNullable == field.isNullable then [] else [.wrongNullability field])
    (executed : catalog.executeAll? (remedies table environment action discrepancies) =
      some after) :
    ∃ changed isNullable, Catalog.Replaces (table.physical environment) changed catalog after ∧
      ChangesOnly field.name live changed ∧
      liveColumn? changed.columns field.name = some { column with isNullable } ∧
      (leftovers table environment action discrepancies = [] →
        isNullable = field.isNullable) := by
  by_cases same : (column.isNullable == field.isNullable) = true
  · rw [computed, if_pos same] at executed
    cases executed
    exact ⟨live, column.isNullable, .refl found, .refl .., columnFound, fun _ =>
      beq_iff_eq.mp same⟩
  · rw [if_neg same] at computed
    subst computed
    rcases executed_singleton executed with ⟨definition, remedy, executed⟩ | ⟨rfl, left⟩
    · obtain ⟨-, ⟨⟩⟩ := Option.ite_none_right_eq_some.mp remedy
      obtain ⟨changed, made, replaces⟩ := Catalog.replaces_of_alter? found executed
      obtain ⟨only, renulled⟩ := liveColumn?_renull? made
      rw [columnFound] at renulled
      exact ⟨changed, _, replaces, only, renulled, fun _ => rfl⟩
    · exact ⟨live, column.isNullable, .refl found, .refl .., columnFound, fun none_left =>
        absurd none_left left⟩

/-- Settling a field changes its column at most, which shows no discrepancy afterwards unless one
is left. -/
theorem settle_column (found : catalog.table? (table.physical environment) = some live)
    {column? : Option LiveColumn} (reported : column? = liveColumn? live.columns field.name)
    (executed : catalog.executeAll?
      (remedies table environment action (columnDiscrepancies field column?)) = some after) :
    ∃ changed, Catalog.Replaces (table.physical environment) changed catalog after ∧
      ChangesOnly field.name live changed ∧
      (leftovers table environment action (columnDiscrepancies field column?) = [] →
        columnDiscrepancies field (liveColumn? changed.columns field.name) = []) := by
  cases column? with
  | none =>
      rcases executed_singleton executed with ⟨definition, remedy, executed⟩ | ⟨rfl, left⟩
      · obtain ⟨-, ⟨⟩⟩ := Option.ite_none_right_eq_some.mp remedy
        obtain ⟨changed, made, replaces⟩ := Catalog.replaces_of_alter? found executed
        obtain ⟨only, added⟩ := liveColumn?_addColumn? made
        refine ⟨changed, replaces, only, fun _ => ?_⟩
        change columnDiscrepancies field (liveColumn? changed.columns field.column.name) = []
        rw [added, columnDiscrepancies_some_eq_nil_iff]
        exact ⟨field.type.holdsIn_nativeName, rfl⟩
      · exact ⟨live, .refl found, .refl .., fun none_left => absurd none_left left⟩
  | some column =>
      rw [columnDiscrepancies, remedies_append, Catalog.executeAll?_append] at executed
      obtain ⟨middle, typeExecuted, nullabilityExecuted⟩ := Option.bind_eq_some_iff.mp executed
      obtain ⟨retyped, type, typeReplaces, typeOnly, typeFound, typed⟩ :=
        settle_type found reported.symm rfl typeExecuted
      obtain ⟨changed, isNullable, replaces, only, columnFound, same⟩ :=
        settle_nullability typeReplaces.table typeFound rfl nullabilityExecuted
      refine ⟨changed, typeReplaces.trans replaces, typeOnly.trans only, fun none_left => ?_⟩
      rw [columnDiscrepancies, leftovers_append, List.append_eq_nil_iff] at none_left
      rw [columnFound, columnDiscrepancies_some_eq_nil_iff]
      exact ⟨typed none_left.1, same none_left.2⟩

/-- Settling fields of distinct names changes their columns at most, which show no discrepancy
afterwards unless one is left. -/
theorem settle_columns {fields : List Field} (distinct : (fields.map (·.name)).Nodup)
    (found : catalog.table? (table.physical environment) = some live)
    {reports : String → Option LiveColumn}
    (reported : ∀ field ∈ fields, reports field.name = liveColumn? live.columns field.name)
    (executed : catalog.executeAll? (remedies table environment action
      (fields.flatMap fun field => columnDiscrepancies field (reports field.name))) =
        some after) :
    ∃ changed, Catalog.Replaces (table.physical environment) changed catalog after ∧
      changed.key = live.key ∧
      (∀ name ∉ fields.map (·.name),
        liveColumn? changed.columns name = liveColumn? live.columns name) ∧
      (leftovers table environment action
          (fields.flatMap fun field => columnDiscrepancies field (reports field.name)) = [] →
        ∀ field ∈ fields,
          columnDiscrepancies field (liveColumn? changed.columns field.name) = []) := by
  induction fields generalizing catalog live with
  | nil =>
      cases executed
      exact ⟨live, .refl found, rfl, fun _ _ => rfl, by simp⟩
  | cons field fields ih =>
      rw [List.map_cons, List.nodup_cons] at distinct
      rw [List.flatMap_cons, remedies_append, Catalog.executeAll?_append] at executed
      obtain ⟨middle, firstExecuted, restExecuted⟩ := Option.bind_eq_some_iff.mp executed
      obtain ⟨settled, firstReplaces, only, firstClean⟩ :=
        settle_column found (reported field List.mem_cons_self) firstExecuted
      have others : ∀ other ∈ fields, other.name ≠ field.name := fun other member same =>
        distinct.1 (same ▸ List.mem_map_of_mem member)
      have stillReported : ∀ other ∈ fields,
          reports other.name = liveColumn? settled.columns other.name := by
        intro other member
        rw [reported other (List.mem_cons_of_mem _ member),
          only.columns other.name (others other member)]
      obtain ⟨changed, replaces, key, columns, clean⟩ :=
        ih distinct.2 firstReplaces.table stillReported restExecuted
      refine ⟨changed, firstReplaces.trans replaces, key.trans only.key, ?_, ?_⟩
      · intro name absent
        rw [List.map_cons, List.mem_cons, not_or] at absent
        rw [columns name absent.2, only.columns name absent.1]
      · intro none_left
        rw [List.flatMap_cons, leftovers_append, List.append_eq_nil_iff] at none_left
        intro other member
        rcases List.mem_cons.mp member with rfl | later
        · rw [columns other.name distinct.1]
          exact firstClean none_left.1
        · exact clean none_left.2 other later

/-! ## Settling the key -/

/-- Columns that show no discrepancy show none when the columns of the declared key are made
never empty. -/
theorem columnsDiscrepancies_renull {columns : List LiveColumn}
    (clean : columnsDiscrepancies table columns = []) :
    columnsDiscrepancies table (columns.map (renull table.keyNames false)) = [] := by
  rw [Table.columnsDiscrepancies_eq_nil_iff] at clean ⊢
  intro field declared
  have fieldClean := clean field declared
  rw [liveColumn?_map (name_renull table.keyNames false)]
  cases found : liveColumn? columns field.name with
  | none => simp [found, columnDiscrepancies] at fieldClean
  | some column =>
      rw [found, columnDiscrepancies_some_eq_nil_iff] at fieldClean
      rw [Option.map_some, columnDiscrepancies_some_eq_nil_iff]
      by_cases keyed : column.name ∈ table.keyNames
      · rw [name_of_liveColumn? found] at keyed
        have forbidden := Table.isNullable_of_mem_keyNames declared keyed
        rw [renull, name_of_liveColumn? found, if_pos keyed]
        exact ⟨fieldClean.1, forbidden.symm⟩
      · rwa [renull, if_neg keyed]

/-- Settling the key leaves a conforming table when nothing is left. -/
theorem settle_key (found : catalog.table? (table.physical environment) = some live)
    {key : List String} (reported : key = live.key)
    (executed : catalog.executeAll?
      (remedies table environment action (keyDiscrepancies table key)) = some after) :
    ∃ changed, Catalog.Replaces (table.physical environment) changed catalog after ∧
      (leftovers table environment action (keyDiscrepancies table key) = [] →
        columnsDiscrepancies table live.columns = [] → changed.Conforms table) := by
  by_cases same : key = table.keyNames
  · rw [keyDiscrepancies, if_pos same] at executed
    cases executed
    exact ⟨live, .refl found, fun _ clean => ⟨clean, reported ▸ same⟩⟩
  · rw [keyDiscrepancies, if_neg same] at executed ⊢
    rcases executed_singleton executed with ⟨definition, remedy, executed⟩ | ⟨rfl, left⟩
    · obtain ⟨-, ⟨⟩⟩ := Option.ite_none_right_eq_some.mp remedy
      obtain ⟨changed, made, replaces⟩ := Catalog.replaces_of_alter? found executed
      obtain ⟨-, made⟩ := Option.ite_none_right_eq_some.mp made
      obtain ⟨columns, keyAdded⟩ := LiveTable.eq_of_ofParts? made
      refine ⟨changed, replaces, fun _ clean => ⟨?_, keyAdded⟩⟩
      rw [columns]
      exact columnsDiscrepancies_renull clean
    · exact ⟨live, .refl found, fun none_left => absurd none_left left⟩

/-! ## Creating the table -/

/-- A column is the only one of its name where the names are distinct. -/
theorem liveColumn?_eq_some {columns : List LiveColumn}
    (distinct : (columns.map (·.name)).Nodup) {column : LiveColumn} (member : column ∈ columns) :
    liveColumn? columns column.name = some column := by
  cases found : liveColumn? columns column.name with
  | none => simpa using List.find?_eq_none.mp found column (List.mem_reverse.mpr member)
  | some other =>
      have otherMem := List.mem_reverse.mp (List.mem_of_find?_eq_some found)
      rw [List.inj_on_of_nodup_map distinct otherMem member (name_of_liveColumn? found)]

/-- A table that is created conforms to its declaration. -/
theorem conforms_of_create? (created : LiveTable.create? (table.fields.map Field.column)
    table.keyNames = some live) : live.Conforms table := by
  obtain ⟨columns, key⟩ := LiveTable.eq_of_ofParts? created
  refine ⟨?_, key⟩
  rw [columns]
  apply columnsDiscrepancies_renull
  rw [Table.columnsDiscrepancies_eq_nil_iff]
  intro field declared
  have distinct : (((table.fields.map Field.column).map newColumn).map (·.name)).Nodup := by
    rw [List.map_map, List.map_map]
    exact table.nodup_fieldNames
  have member : newColumn field.column ∈ (table.fields.map Field.column).map newColumn :=
    List.mem_map_of_mem (List.mem_map_of_mem declared)
  have found : liveColumn? ((table.fields.map Field.column).map newColumn) field.name =
      some (newColumn field.column) := liveColumn?_eq_some distinct member
  rw [found, columnDiscrepancies_some_eq_nil_iff]
  exact ⟨field.type.holdsIn_nativeName, rfl⟩

/-- Settling a missing table leaves a conforming one when nothing is left. -/
theorem settle_table
    (executed : catalog.executeAll? (remedies table environment action [.tableMissing]) =
      some after)
    (none_left : leftovers table environment action [.tableMissing] = []) :
    ∃ live, after.table? (table.physical environment) = some live ∧ live.Conforms table := by
  rcases executed_singleton executed with ⟨definition, remedy, executed⟩ | ⟨rfl, left⟩
  · obtain ⟨-, ⟨⟩⟩ := Option.ite_none_right_eq_some.mp remedy
    obtain ⟨-, executed⟩ := Option.ite_none_right_eq_some.mp executed
    obtain ⟨live, created, put⟩ := Option.bind_eq_some_iff.mp executed
    exact ⟨live, (Catalog.replaces_of_put? put).table, conforms_of_create? created⟩
  · exact absurd none_left left

end Validation

end TableStore
