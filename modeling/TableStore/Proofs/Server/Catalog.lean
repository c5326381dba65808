import Mathlib.Logic.Function.Basic
import TableStore.Proofs.Server.Dialogue
import TableStore.Proofs.Sql.Definition
import TableStore.Validation.Live

/-!
# Catalogs

A catalog has schemas, and a schema has tables. A table has columns of distinct names and an
ordered primary key whose columns are there and are never empty. Each statement about structure
either turns a catalog into another one or is refused.

A server keeps a catalog when it answers the queries of the catalog from it and does, when it
answers a statement about structure, what the text of the statement says.
-/

namespace TableStore.Server

open Sql Validation

/-- A table of a server. -/
structure LiveTable where
  columns : List LiveColumn
  key : List String
  distinct : (columns.map (·.name)).Nodup
  keyed : ∀ name ∈ key, ∃ column ∈ columns, column.name = name ∧ column.isNullable = false

/-- A column that has just been created; it reports its native type. -/
def newColumn (column : Column) : LiveColumn :=
  ⟨column.name, column.type.nativeName, column.isNullable⟩

/-- A column with another type if it has the name. -/
def retype (name : String) (type : ValueType) (column : LiveColumn) : LiveColumn :=
  if column.name = name then { column with type := type.nativeName } else column

/-- A column with another nullability if it has one of the names. -/
def renull (names : List String) (isNullable : Bool) (column : LiveColumn) : LiveColumn :=
  if column.name ∈ names then { column with isNullable } else column

namespace LiveTable

/-- The table with the given columns and key, unless they do not go together. -/
def ofParts? (columns : List LiveColumn) (key : List String) : Option LiveTable :=
  if sound : (columns.map (·.name)).Nodup ∧
      ∀ name ∈ key, ∃ column ∈ columns, column.name = name ∧ column.isNullable = false then
    some ⟨columns, key, sound.1, sound.2⟩
  else none

/-- A new table; the columns of the key are never empty. -/
def create? (columns : List Column) (key : List String) : Option LiveTable :=
  ofParts? ((columns.map newColumn).map (renull key false)) key

/-- The table with a column more. -/
def addColumn? (live : LiveTable) (column : Column) : Option LiveTable :=
  ofParts? (live.columns ++ [newColumn column]) live.key

/-- The table with another type of a column that is there. -/
def retype? (live : LiveTable) (name : String) (type : ValueType) : Option LiveTable :=
  if name ∈ live.columns.map (·.name) then
    ofParts? (live.columns.map (retype name type)) live.key
  else none

/-- The table with another nullability of a column that is there; the columns of the key cannot
become nullable. -/
def renull? (live : LiveTable) (name : String) (isNullable : Bool) : Option LiveTable :=
  if name ∈ live.columns.map (·.name) then
    ofParts? (live.columns.map (renull [name] isNullable)) live.key
  else none

/-- The table with a primary key, if it has none. -/
def addKey? (live : LiveTable) (key : List String) : Option LiveTable :=
  if live.key = [] then ofParts? (live.columns.map (renull key false)) key else none

theorem eq_of_ofParts? {columns : List LiveColumn} {key : List String} {live : LiveTable}
    (sound : ofParts? columns key = some live) : live.columns = columns ∧ live.key = key := by
  unfold ofParts? at sound
  split at sound
  · cases sound
    exact ⟨rfl, rfl⟩
  · cases sound

end LiveTable

/-- What a server knows of its structure: for each schema its tables by name. -/
structure Catalog where
  tables? : String → Option (String → Option LiveTable)

namespace Catalog

/-- Whether a schema is there. -/
def hasSchema (catalog : Catalog) (schema : String) : Bool :=
  (catalog.tables? schema).isSome

/-- The table with a name. -/
def table? (catalog : Catalog) (name : TableName) : Option LiveTable :=
  (catalog.tables? name.schema).bind fun tables => tables name.table

/-- The catalog with a schema, which is empty if it was not there. -/
def addSchema (catalog : Catalog) (schema : String) : Catalog :=
  if catalog.hasSchema schema then catalog
  else ⟨Function.update catalog.tables? schema (some fun _ => none)⟩

/-- The catalog with a table in a schema that is there. -/
def put? (catalog : Catalog) (name : TableName) (live : LiveTable) : Option Catalog :=
  (catalog.tables? name.schema).map fun tables =>
    ⟨Function.update catalog.tables? name.schema
      (some (Function.update tables name.table (some live)))⟩

/-- The catalog with a change of a table that is there. -/
def alter? (catalog : Catalog) (name : TableName) (change : LiveTable → Option LiveTable) :
    Option Catalog :=
  (catalog.table? name).bind fun live => (change live).bind (catalog.put? name)

/-- What a statement about structure makes of a catalog. -/
def execute? (catalog : Catalog) : Definition → Option Catalog
  | .createSchema schema => some (catalog.addSchema schema)
  | .createTable name columns key =>
      if (catalog.table? name).isNone then
        (LiveTable.create? columns key).bind (catalog.put? name)
      else none
  | .addColumn name column => catalog.alter? name (·.addColumn? column)
  | .alterType name column type => catalog.alter? name (·.retype? column type)
  | .setNullable name column isNullable => catalog.alter? name (·.renull? column isNullable)
  | .addPrimaryKey name key => catalog.alter? name (·.addKey? key)

/-- What statements about structure make of a catalog one after another. -/
def executeAll? (catalog : Catalog) : List Definition → Option Catalog
  | [] => some catalog
  | definition :: rest => (catalog.execute? definition).bind fun catalog =>
      catalog.executeAll? rest

/-- The cells that report a column. -/
def reportCells (column : LiveColumn) : List Cell :=
  [.characters column.name, .characters column.type,
    .characters (if column.isNullable then "YES" else "NO")]

/-- The rows that answer a query of the catalog. -/
def rows (catalog : Catalog) : CatalogQuery → List (List Cell)
  | .schemaExists schema => [[.bool (catalog.hasSchema schema)]]
  | .tableExists name => [[.bool (catalog.table? name).isSome]]
  | .columns name => ((catalog.table? name).map (·.columns)).getD [] |>.map reportCells
  | .primaryKey name =>
      ((catalog.table? name).map (·.key)).getD [] |>.map fun column => [.characters column]

end Catalog

/-- Whether a server keeps a catalog, which a view of its state shows. A statement that fails
leaves the catalog as it is. -/
structure Serves {State : Type} (server : Backend State) (view : State → Catalog) : Prop where
  queried : ∀ state query, ∃ answer after,
    server state (.catalog query) = (.answer answer, after) ∧
      answer.rows = (view state).rows query ∧ view after = view state
  executed : ∀ state definition answer after,
    server state (.definition definition) = (.answer answer, after) →
      ∃ read, Definition.ofText? (Statement.definition definition).text = some read ∧
        (view state).execute? read = some (view after)
  failed : ∀ state definition after,
    server state (.definition definition) = (.failure, after) → view after = view state

/-- What a catalog becomes under a statement about structure that can be read. -/
def Catalog.obey? (catalog : Catalog) (definition : Definition) : Option Catalog :=
  if definition.IsReadable then catalog.execute? definition else none

/-- A server whose state is its catalog. It refuses what it cannot read and what the catalog
does not allow. -/
def Catalog.server : Backend Catalog := fun catalog statement =>
  match statement with
  | .catalog query => (.answer ⟨[], catalog.rows query, 0⟩, catalog)
  | .definition definition =>
      match catalog.obey? definition with
      | some after => (.answer {}, after)
      | none => (.failure, catalog)
  | _ => (.answer {}, catalog)

theorem Catalog.serves_server : Serves Catalog.server id where
  queried catalog query := ⟨_, catalog, rfl, rfl, rfl⟩
  executed catalog definition answer after answered := by
    simp only [Catalog.server] at answered
    cases obeyed : catalog.obey? definition with
    | none => simp [obeyed] at answered
    | some next =>
        simp only [obeyed, Prod.mk.injEq] at answered
        obtain ⟨readable, executed⟩ := Option.ite_none_right_eq_some.mp obeyed
        exact ⟨definition, Definition.ofText?_text readable, answered.2 ▸ executed⟩
  failed catalog definition after failed := by
    simp only [Catalog.server] at failed
    cases obeyed : catalog.obey? definition with
    | none =>
        simp only [obeyed, Prod.mk.injEq] at failed
        exact failed.2.symm
    | some next => simp [obeyed] at failed

/-! ## Columns by name -/

theorem name_of_liveColumn? {columns : List LiveColumn} {name : String} {column : LiveColumn}
    (found : liveColumn? columns name = some column) : column.name = name := by
  simpa using List.find?_some found

theorem liveColumn?_append (columns : List LiveColumn) (column : LiveColumn) (name : String) :
    liveColumn? (columns ++ [column]) name =
      if column.name = name then some column else liveColumn? columns name := by
  rw [liveColumn?, List.reverse_append, List.reverse_singleton, List.singleton_append,
    List.find?_cons]
  by_cases same : column.name = name
  · simp [same]
  · have differs : (column.name == name) = false := beq_false_of_ne same
    rw [differs, if_neg same]
    rfl

/-- What is done to columns without renaming them is done to the column with a name. -/
theorem liveColumn?_map {change : LiveColumn → LiveColumn}
    (keepsName : ∀ column, (change column).name = column.name) (columns : List LiveColumn)
    (name : String) :
    liveColumn? (columns.map change) name = (liveColumn? columns name).map change := by
  rw [liveColumn?, ← List.map_reverse, List.find?_map]
  congr 2
  funext column
  rw [Function.comp_apply, keepsName]

theorem name_retype (name : String) (type : ValueType) (column : LiveColumn) :
    (retype name type column).name = column.name := by
  unfold retype
  split <;> rfl

theorem name_renull (names : List String) (isNullable : Bool) (column : LiveColumn) :
    (renull names isNullable column).name = column.name := by
  unfold renull
  split <;> rfl

/-! ## Creating a schema -/

namespace Catalog

/-- Creating the schema changes no table. -/
theorem table?_addSchema (catalog : Catalog) (schema : String) (name : TableName) :
    (catalog.addSchema schema).table? name = catalog.table? name := by
  unfold addSchema
  split
  · rfl
  · rename_i missing
    have none : catalog.tables? schema = none := by
      simpa [hasSchema] using missing
    by_cases same : name.schema = schema
    · simp [table?, same, none]
    · simp [table?, same]

theorem hasSchema_addSchema (catalog : Catalog) (schema other : String) :
    (catalog.addSchema schema).hasSchema other = (catalog.hasSchema other || other == schema) := by
  unfold addSchema
  split
  · rename_i there
    by_cases same : other = schema
    · simp [same, there]
    · simp [same]
  · by_cases same : other = schema
    · simp [hasSchema, same]
    · simp [hasSchema, same]

end Catalog

/-! ## Replacing a table -/

namespace Catalog

/-- Whether two catalogs differ at most in a table, which the second one has as given. -/
structure Replaces (name : TableName) (live : LiveTable) (before after : Catalog) : Prop where
  table : after.table? name = some live
  schemas : ∀ schema, after.hasSchema schema = before.hasSchema schema
  others : ∀ other, other ≠ name → after.table? other = before.table? other

theorem Replaces.refl {name : TableName} {live : LiveTable} {catalog : Catalog}
    (found : catalog.table? name = some live) : Replaces name live catalog catalog :=
  ⟨found, fun _ => rfl, fun _ _ => rfl⟩

theorem Replaces.trans {name : TableName} {first second : LiveTable} {a b c : Catalog}
    (before : Replaces name first a b) (after : Replaces name second b c) :
    Replaces name second a c where
  table := after.table
  schemas schema := (after.schemas schema).trans (before.schemas schema)
  others other differs := (after.others other differs).trans (before.others other differs)

theorem replaces_of_put? {catalog after : Catalog} {name : TableName} {live : LiveTable}
    (put : catalog.put? name live = some after) : Replaces name live catalog after := by
  obtain ⟨tables, there, rfl⟩ := Option.map_eq_some_iff.mp put
  constructor
  · simp [table?]
  · intro schema
    by_cases same : schema = name.schema
    · simp [hasSchema, same, there]
    · simp [hasSchema, same]
  · rintro ⟨schema, table⟩ differs
    by_cases sameSchema : schema = name.schema
    · subst sameSchema
      have differs : table ≠ name.table := fun sameTable => differs (by rw [sameTable])
      simp [table?, there, differs]
    · simp [table?, sameSchema]

/-- A change that is made replaces the table by the changed one. -/
theorem replaces_of_alter? {catalog after : Catalog} {name : TableName}
    {change : LiveTable → Option LiveTable} {live : LiveTable}
    (found : catalog.table? name = some live) (altered : catalog.alter? name change = some after) :
    ∃ changed, change live = some changed ∧ Replaces name changed catalog after := by
  rw [alter?, found, Option.bind_some] at altered
  obtain ⟨changed, made, put⟩ := Option.bind_eq_some_iff.mp altered
  exact ⟨changed, made, replaces_of_put? put⟩

theorem hasSchema_of_table? {catalog : Catalog} {name : TableName} {live : LiveTable}
    (found : catalog.table? name = some live) : catalog.hasSchema name.schema = true := by
  obtain ⟨tables, there, -⟩ := Option.bind_eq_some_iff.mp found
  rw [hasSchema, there]
  rfl

theorem executeAll?_append (catalog : Catalog) (first second : List Definition) :
    catalog.executeAll? (first ++ second) =
      (catalog.executeAll? first).bind fun catalog => catalog.executeAll? second := by
  induction first generalizing catalog with
  | nil => rfl
  | cons definition first ih =>
      rw [List.cons_append, executeAll?, executeAll?, Option.bind_assoc]
      simp only [ih]

end Catalog

end TableStore.Server
