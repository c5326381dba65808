import TableStore.Proofs.Server.Catalog
import TableStore.Proofs.Table.Basic
import TableStore.Validation.Report

/-!
# What a validation leaves alone

A validation is about one table in one schema, and spares everything else. A live column of the
table stays where it is under its name; its type or its nullability changes only in a repair, and
only if a field of that name declares another one. A primary key that is there stays.

This relation between a catalog and an earlier one is kept by each kind of change that a remedy
makes: a schema or a table that is added, a column that is added, and columns that are changed one
by one.
-/

namespace TableStore

open Server Sql

namespace Validation

/-- Whether a column is as it was, apart from a type or a nullability that was not the declared one
and that a repair has brought in line with the field of the same name. -/
structure LiveColumn.Spared (table : Table) (action : Action) (old new : LiveColumn) : Prop where
  name : new.name = old.name
  type : new.type = old.type ∨ action = .buildOrRepairIfInvalid ∧
    ∃ field ∈ table.fields, field.name = old.name ∧ field.type.holdsIn old.type = false ∧
      new.type = field.type.nativeName
  nullability : new.isNullable = old.isNullable ∨ action = .buildOrRepairIfInvalid ∧
    ∃ field ∈ table.fields, field.name = old.name ∧ old.isNullable ≠ field.isNullable ∧
      new.isNullable = field.isNullable

namespace LiveColumn.Spared

variable {table : Table} {action : Action} {old new : LiveColumn}

theorem refl (column : LiveColumn) : column.Spared table action column :=
  ⟨rfl, .inl rfl, .inl rfl⟩

/-- A column without a field is exactly as it was. -/
theorem eq_of_undeclared (spared : old.Spared table action new)
    (undeclared : old.name ∉ table.fieldNames) : new = old := by
  have noField : ∀ field ∈ table.fields, field.name ≠ old.name := fun field declared same =>
    undeclared (same ▸ List.mem_map_of_mem declared)
  have type : new.type = old.type := by
    rcases spared.type with same | ⟨-, field, declared, named, -⟩
    · exact same
    · exact absurd named (noField field declared)
  have nullability : new.isNullable = old.isNullable := by
    rcases spared.nullability with same | ⟨-, field, declared, named, -⟩
    · exact same
    · exact absurd named (noField field declared)
  calc new = ⟨new.name, new.type, new.isNullable⟩ := rfl
    _ = ⟨old.name, old.type, old.isNullable⟩ := by rw [spared.name, type, nullability]
    _ = old := rfl

/-- A repair may give a column the type of the field of its name if the type that it had was
wrong. -/
theorem retype {field : Field} (declared : field ∈ table.fields)
    (wrong : old.name = field.name → field.type.holdsIn old.type = false)
    (spared : old.Spared table .buildOrRepairIfInvalid new) :
    old.Spared table .buildOrRepairIfInvalid (Server.retype field.name field.type new) := by
  unfold Server.retype
  split
  · rename_i named
    have same : old.name = field.name := spared.name.symm.trans named
    exact ⟨spared.name, .inr ⟨rfl, field, declared, same.symm, wrong same, rfl⟩,
      spared.nullability⟩
  · exact spared

/-- A repair may give columns a nullability that the fields of their names declare. -/
theorem renull {names : List String} {isNullable : Bool}
    (declared : ∀ name ∈ names, ∃ field ∈ table.fields,
      field.name = name ∧ field.isNullable = isNullable)
    (spared : old.Spared table .buildOrRepairIfInvalid new) :
    old.Spared table .buildOrRepairIfInvalid (Server.renull names isNullable new) := by
  unfold Server.renull
  split
  · rename_i named
    obtain ⟨field, member, same, rfl⟩ := declared new.name named
    refine ⟨spared.name, spared.type, ?_⟩
    by_cases already : old.isNullable = field.isNullable
    · exact .inl already.symm
    · exact .inr ⟨rfl, field, member, same.trans spared.name, already, rfl⟩
  · exact spared

end LiveColumn.Spared

end Validation

namespace Server

open Validation

/-- Whether a primary key is as it was, or was empty and is the declared one after a repair. -/
def KeySpared (table : Table) (action : Action) (old new : List String) : Prop :=
  new = old ∨ action = .buildOrRepairIfInvalid ∧ old = [] ∧ new = table.keyNames

/-- A key that is there stays. -/
theorem KeySpared.eq_of_ne_nil {table : Table} {action : Action} {old new : List String}
    (spared : KeySpared table action old new) (keyed : old ≠ []) : new = old := by
  rcases spared with same | ⟨-, keyless, -⟩
  · exact same
  · exact absurd keyless keyed

theorem KeySpared.trans {table : Table} {action : Action} {first second third : List String}
    (before : KeySpared table action first second) (after : KeySpared table action second third) :
    KeySpared table action first third := by
  rcases after with rfl | ⟨repairs, keyless, declared⟩
  · exact before
  · rcases before with same | ⟨-, keylessFirst, -⟩
    · exact .inr ⟨repairs, same.symm.trans keyless, declared⟩
    · exact .inr ⟨repairs, keylessFirst, declared⟩

/-- Whether every column of a table is spared, at its place, and the key. -/
structure LiveTable.Spared (table : Table) (action : Action) (live changed : LiveTable) :
    Prop where
  columns : ∀ (index : Nat) (old : LiveColumn), live.columns[index]? = some old →
    ∃ new, changed.columns[index]? = some new ∧ old.Spared table action new
  key : KeySpared table action live.key changed.key

namespace LiveTable.Spared

variable {table : Table} {action : Action} {live current changed : LiveTable}

theorem refl (live : LiveTable) : live.Spared table action live :=
  ⟨fun _ old found => ⟨old, found, .refl old⟩, .inl rfl⟩

/-- What is done to single columns spares the table if it spares each of them. -/
theorem map (spared : live.Spared table action current) {change : LiveColumn → LiveColumn}
    (columns : changed.columns = current.columns.map change)
    (key : KeySpared table action current.key changed.key)
    (each : ∀ old ∈ live.columns, ∀ new, old.Spared table action new →
      old.Spared table action (change new)) : live.Spared table action changed where
  columns index old found := by
    obtain ⟨new, foundNew, sparedNew⟩ := spared.columns index old found
    refine ⟨change new, ?_, each old (List.mem_of_getElem? found) new sparedNew⟩
    rw [columns, List.getElem?_map, foundNew]
    rfl
  key := spared.key.trans key

/-- A further column spares those that are there. -/
theorem addColumn (spared : live.Spared table action current) {column : Column}
    (added : current.addColumn? column = some changed) : live.Spared table action changed where
  columns index old found := by
    obtain ⟨columns, -⟩ := LiveTable.eq_of_ofParts? added
    obtain ⟨new, foundNew, sparedNew⟩ := spared.columns index old found
    obtain ⟨within, -⟩ := List.getElem?_eq_some_iff.mp foundNew
    exact ⟨new, by rw [columns, List.getElem?_append_left within, foundNew], sparedNew⟩
  key := spared.key.trans (.inl (LiveTable.eq_of_ofParts? added).2)

end LiveTable.Spared

/-- Whether a catalog is as it was outside a table and its schema, the schema is still there, and
the table is spared. -/
structure Catalog.Spares (table : Table) (place : TableName) (action : Action)
    (before after : Catalog) : Prop where
  schemas : ∀ schema, schema ≠ place.schema → after.hasSchema schema = before.hasSchema schema
  schemaKept : before.hasSchema place.schema = true → after.hasSchema place.schema = true
  others : ∀ other, other ≠ place → after.table? other = before.table? other
  tableKept : ∀ live, before.table? place = some live →
    ∃ changed, after.table? place = some changed ∧ live.Spared table action changed

namespace Catalog.Spares

variable {table : Table} {place : TableName} {action : Action} {before current after : Catalog}

theorem refl (catalog : Catalog) : Spares table place action catalog catalog :=
  ⟨fun _ _ => rfl, id, fun _ _ => rfl, fun live found => ⟨live, found, .refl live⟩⟩

theorem addSchema (spares : Spares table place action before current) :
    Spares table place action before (current.addSchema place.schema) where
  schemas schema differs := by
    rw [hasSchema_addSchema, beq_false_of_ne differs, Bool.or_false, spares.schemas schema differs]
  schemaKept _ := by rw [hasSchema_addSchema, beq_self_eq_true, Bool.or_true]
  others other differs := by rw [table?_addSchema, spares.others other differs]
  tableKept live found := by
    rw [table?_addSchema]
    exact spares.tableKept live found

/-- A catalog in which the table is replaced by a table that spares the original. -/
theorem replace (spares : Spares table place action before current) {changed : LiveTable}
    (replaces : Replaces place changed current after)
    (spared : ∀ live, before.table? place = some live → live.Spared table action changed) :
    Spares table place action before after where
  schemas schema differs := (replaces.schemas schema).trans (spares.schemas schema differs)
  schemaKept there := (replaces.schemas place.schema).trans (spares.schemaKept there)
  others other differs := (replaces.others other differs).trans (spares.others other differs)
  tableKept live found := ⟨changed, replaces.table, spared live found⟩

/-- A table is only created where there is none. -/
theorem createTable (spares : Spares table place action before current) {columns : List Column}
    {key : List String}
    (executed : current.execute? (.createTable place columns key) = some after) :
    Spares table place action before after := by
  obtain ⟨missing, executed⟩ := Option.ite_none_right_eq_some.mp executed
  obtain ⟨created, -, put⟩ := Option.bind_eq_some_iff.mp executed
  refine spares.replace (replaces_of_put? put) fun live found => ?_
  obtain ⟨changed, there, -⟩ := spares.tableKept live found
  rw [there] at missing
  cases missing

/-- A change of the table that spares the original. -/
theorem alter (spares : Spares table place action before current)
    {change : LiveTable → Option LiveTable} (altered : current.alter? place change = some after)
    (each : ∀ live now changed, before.table? place = some live → live.Spared table action now →
      change now = some changed → live.Spared table action changed) :
    Spares table place action before after := by
  obtain ⟨now, there, -⟩ := Option.bind_eq_some_iff.mp altered
  obtain ⟨changed, made, replaces⟩ := replaces_of_alter? there altered
  refine spares.replace replaces fun live found => ?_
  obtain ⟨same, foundSame, spared⟩ := spares.tableKept live found
  cases there.symm.trans foundSame
  exact each live now changed found spared made

end Catalog.Spares

end Server

end TableStore
