import TableStore.Proofs.Selection.Restriction
import TableStore.Proofs.Server.Identifier
import TableStore.Proofs.Sql.Names
import TableStore.Proofs.Updates
import TableStore.Proofs.Validation.Replies

/-!
# The place of a statement

What a statement names is quoted in its text or bound to it. The queries of the catalog quote
nothing, and the names that they ask about are bound.

Every statement that is issued for a table in an environment names the one schema that holds the
table there, no other table, and columns only by names that can be declared.
-/

namespace TableStore

open Sql Validation

namespace Sql

theorem unquoted_ofList {text : List Char} (unquoted : '"' ∉ text) :
    '"' ∉ (String.ofList text).toList := by
  rwa [String.toList_ofList]

theorem unquoted_append {first second : String} (unquoted : '"' ∉ first.toList)
    (alsoUnquoted : '"' ∉ second.toList) : '"' ∉ (first ++ second).toList := by
  rw [String.toList_append, List.mem_append]
  exact not_or.mpr ⟨unquoted, alsoUnquoted⟩

/-- The queries of the catalog quote nothing. -/
theorem CatalogQuery.unquoted (query : CatalogQuery) : '"' ∉ query.text.toList := by
  -- each text is looked at piece by piece, as it is put together
  cases query with
  | schemaExists => exact unquoted_ofList (by decide)
  | tableExists => refine unquoted_append ?_ ?_ <;> exact unquoted_ofList (by decide)
  | columns =>
      refine unquoted_append (unquoted_append ?_ ?_) ?_ <;> exact unquoted_ofList (by decide)
  | primaryKey =>
      refine unquoted_append (unquoted_append (unquoted_append (unquoted_append
        (unquoted_append ?_ ?_) ?_) ?_) ?_) ?_ <;> exact unquoted_ofList (by decide)

namespace Statement

/-- The schemas that a statement names: those in its text and the one bound to it. -/
def schemas (statement : Statement) : List String :=
  namesIn .schema statement.text ++ statement.parameters.take 1

/-- The tables that a statement names: those in its text and the one bound to it. -/
def tables (statement : Statement) : List String :=
  namesIn .table statement.text ++ statement.parameters.drop 1

/-- Whether a statement names one schema and at most one table, which are those of a place, and
columns only by names that can be declared. A text that is not read has nothing quoted in it. -/
structure StaysIn (statement : Statement) (place : TableName) : Prop where
  schemas : statement.schemas = [place.schema]
  tables : ∀ name ∈ statement.tables, name = place.table
  columns : ∀ name ∈ namesIn .column statement.text, Name.isValid name = true
  legible : (tokenize statement.text.toList).isSome = true ∨ '"' ∉ statement.text.toList

/-- What is quoted in a statement that stays in a place is the schema, the table, or a name that can
be declared. -/
theorem StaysIn.quoted {statement : Statement} {place : TableName}
    (stays : statement.StaysIn place) {name : String} (quoted : name ∈ quotedNames statement.text) :
    name = place.schema ∨ name = place.table ∨ Name.isValid name = true := by
  obtain ⟨standing, found⟩ := mem_quotedNames_iff.mp quoted
  cases standing with
  | schema =>
      have named : name ∈ statement.schemas := List.mem_append_left _ found
      rw [stays.schemas, List.mem_singleton] at named
      exact .inl named
  | table => exact .inr (.inl (stays.tables name (List.mem_append_left _ found)))
  | column => exact .inr (.inr (stays.columns name found))

/-- A statement without parameters whose tokens name a place stays in it. -/
theorem staysIn_of_namesOnly {statement : Statement} {place : TableName} {tokens : List Token}
    {tables columns : List String} (free : statement.parameters = [])
    (spelled : Spells statement.text tokens)
    (named : NamesOnly place.schema tables columns tokens)
    (within : ∀ name ∈ tables, name = place.table)
    (valid : ∀ name ∈ columns, Name.isValid name = true) : statement.StaysIn place where
  schemas := by simp [schemas, free, namesIn_of_spells spelled, named.schemas]
  tables := by simpa [Statement.tables, free, namesIn_of_spells spelled, named.tables] using within
  columns name member := by
    rw [namesIn_of_spells spelled] at member
    exact valid name (named.columns name member)
  legible := .inl (by rw [spelled]; rfl)

end Statement

theorem RowStatement.staysIn {statement : RowStatement}
    (valid : ∀ name ∈ statement.columns, Name.isValid name = true) :
    (Statement.rows statement).StaysIn statement.table :=
  Statement.staysIn_of_namesOnly rfl (spells_rowStatement statement) statement.namesOnly
    (by simp) valid

theorem Definition.staysIn {definition : Definition} {place : TableName}
    (schema : definition.schema = place.schema) (tables : ∀ name ∈ definition.tables,
      name = place.table)
    (valid : ∀ name ∈ definition.columns, Name.isValid name = true) :
    (Statement.definition definition).StaysIn place :=
  Statement.staysIn_of_namesOnly rfl (spells_definition definition)
    (schema ▸ definition.namesOnly) tables valid

/-- A query of the catalog about a place stays in it. -/
theorem CatalogQuery.staysIn {query : CatalogQuery} {place : TableName}
    (about : query ∈ queriesAbout place) : (Statement.catalog query).StaysIn place := by
  have nameless : ∀ standing, namesIn standing query.text = [] := namesIn_eq_nil query.unquoted
  have bound : query.parameters = [place.schema] ∨
      query.parameters = [place.schema, place.table] := by
    simp only [queriesAbout, List.mem_cons, List.not_mem_nil, or_false] at about
    rcases about with rfl | rfl | rfl | rfl <;> simp [parameters]
  constructor
  · rcases bound with bound | bound <;>
      simp [Statement.schemas, Statement.text, Statement.parameters, nameless, bound]
  · rcases bound with bound | bound <;>
      simp [Statement.tables, Statement.text, Statement.parameters, nameless, bound]
  · simp [Statement.text, nameless]
  · exact .inr query.unquoted

end Sql

/-! ## Statements issued for a table -/

/-- Whether a statement is one that is issued for a table in an environment. -/
inductive Table.Issues (table : Table) (environment : Environment) : Statement → Prop
  | counting {selection : Selection} (own : selection.table = table) :
      Issues table environment (.rows (selection.counting environment))
  | reading {selection : Selection} (own : selection.table = table) :
      Issues table environment (.rows (selection.reading environment))
  | deletion {selection : Selection} (own : selection.table = table) :
      Issues table environment (.rows (selection.deletion environment))
  | update (updates : Updates) {selection : Selection} (own : selection.table = table) :
      Issues table environment (.rows (updates.statement selection environment))
  | insertion {records : List Record} {statement : RowStatement}
      (made : table.insertion? environment records = some statement) :
      Issues table environment (.rows statement)
  | schemaCreation : Issues table environment (.definition (table.schemaCreation environment))
  | creation : Issues table environment (.definition (table.creation environment))
  | columnAddition {field : Field} (member : field ∈ table.fields) :
      Issues table environment (.definition (table.columnAddition field environment))
  | typeAlteration {field : Field} (member : field ∈ table.fields) :
      Issues table environment (.definition (table.typeAlteration field environment))
  | nullabilityAlteration {field : Field} (member : field ∈ table.fields) :
      Issues table environment (.definition (table.nullabilityAlteration field environment))
  | keyAddition : Issues table environment (.definition (table.keyAddition environment))
  | catalog {query : CatalogQuery} (about : query ∈ queriesAbout (table.physical environment)) :
      Issues table environment (.catalog query)

namespace Table

variable {table : Table}

theorem isValid_of_mem_fields {field : Field} (member : field ∈ table.fields) :
    Name.isValid field.name = true :=
  table.isValid_fieldNames _ (List.mem_map_of_mem member)

theorem isValid_keyNames : ∀ name ∈ table.keyNames, Name.isValid name = true := by
  intro name member
  obtain ⟨field, keyed, rfl⟩ := List.mem_map.mp member
  rw [keyFields, List.mem_append, List.mem_filter, List.mem_filter] at keyed
  exact isValid_of_mem_fields (keyed.elim And.left And.left)

end Table

namespace Criterion

variable (criterion : Criterion)

theorem columns_beginnings (ignoreCase negated : Bool)
    (compares : criterion.comparison = beginningComparison ignoreCase negated) :
    ∀ column ∈ criterion.condition.columns, column = criterion.field.name := by
  rw [criterion.condition_beginnings ignoreCase negated compares]
  split
  · simp [Condition.columns, Test.column]
  · cases negated <;> simp [beginningGroup, beginningTests, Condition.columns, Test.column]

/-- The condition of a criterion is about the field of the criterion. -/
theorem columns_condition :
    ∀ column ∈ criterion.condition.columns, column = criterion.field.name := by
  cases compares : criterion.comparison with
  | startsWith ignoreCase => exact criterion.columns_beginnings ignoreCase false compares
  | startsNotWith ignoreCase => exact criterion.columns_beginnings ignoreCase true compares
  | between includeLower includeUpper =>
      cases includeLower <;> cases includeUpper <;>
        simp [condition, compares, Condition.columns, Test.column]
  | _ => simp [condition, compares, Condition.columns, Test.column]

end Criterion

/-- The conditions of a selection are about columns of the table. -/
theorem Selection.isValid_conditionColumns (selection : Selection) :
    ∀ column ∈ conditionColumns selection.conditions, Name.isValid column = true := by
  intro column member
  obtain ⟨condition, listed, named⟩ := List.mem_flatMap.mp member
  obtain ⟨criterion, chosen, rfl⟩ := List.mem_map.mp listed
  obtain ⟨own, found, -⟩ := Table.fieldNamed?_of_contains (selection.bound criterion chosen)
  obtain ⟨declared, sameName⟩ := Table.fieldNamed?_eq_some_iff.mp found
  rw [criterion.columns_condition column named, ← sameName]
  exact Table.isValid_of_mem_fields declared

/-- Every statement that is issued for a table stays in the place of the table. -/
theorem Table.Issues.staysIn {table : Table} {environment : Environment} {statement : Statement}
    (issued : table.Issues environment statement) :
    statement.StaysIn (table.physical environment) := by
  have itself : ∀ name ∈ [table.name], name = (table.physical environment).table :=
    List.forall_mem_singleton.mpr rfl
  -- all columns are those of fields, of the table itself or of the table of an update
  cases issued with
  | @counting selection own =>
      subst own
      exact RowStatement.staysIn selection.isValid_conditionColumns
  | @reading selection own =>
      subst own
      apply RowStatement.staysIn
      simp only [Selection.reading, RowStatement.columns, List.forall_mem_append]
      exact ⟨selection.table.isValid_fieldNames, selection.isValid_conditionColumns,
        isValid_keyNames⟩
  | @deletion selection own =>
      subst own
      exact RowStatement.staysIn selection.isValid_conditionColumns
  | @update updates selection own =>
      subst own
      apply RowStatement.staysIn
      simp only [Updates.statement, RowStatement.columns, List.forall_mem_append]
      refine ⟨fun name member => ?_, selection.isValid_conditionColumns⟩
      exact updates.table.isValid_fieldNames name (updates.changes_sublist.subset
        (by simpa [Updates.assignments] using member))
  | @insertion records statement made =>
      cases records with
      | nil => cases made
      | cons record records =>
          cases made
          exact RowStatement.staysIn table.isValid_fieldNames
  | schemaCreation => exact Definition.staysIn rfl (by rintro _ ⟨⟩) (by rintro _ ⟨⟩)
  | creation =>
      have valid : ∀ name ∈ (table.creation environment).columns, Name.isValid name = true := by
        simp only [Table.creation, Definition.columns, List.forall_mem_append, List.map_map]
        exact ⟨table.isValid_fieldNames, isValid_keyNames⟩
      exact Definition.staysIn rfl itself valid
  | columnAddition member | typeAlteration member | nullabilityAlteration member =>
      exact Definition.staysIn rfl itself
        (List.forall_mem_singleton.mpr (isValid_of_mem_fields member))
  | keyAddition => exact Definition.staysIn rfl itself isValid_keyNames
  | catalog about => exact CatalogQuery.staysIn about

end TableStore
