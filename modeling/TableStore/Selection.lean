import TableStore.Criterion.Basic
import TableStore.Table.Basic

/-!
# Selections

A selection is the conjunction of criteria on the fields of one table. It is built
at once from a list or by adding one criterion after another to the selection of all
rows; either way a field of another table is refused.
-/

namespace TableStore

/-- A conjunction of criteria over one table. -/
structure Selection where
  table : Table
  criteria : List Criterion
  bound : ∀ criterion ∈ criteria, table.contains criterion.field = true

namespace Selection

/-- The first criterion whose field is not one of a table's. -/
def foreign? (table : Table) (criteria : List Criterion) : Option Criterion :=
  criteria.find? fun criterion => !table.contains criterion.field

/-- The error of a criterion that is bound to another table. -/
def foreignError (table : Table) (criterion : Criterion) : Error :=
  .binding table.qualifiedName criterion.field.name

theorem bound_of_foreign?_eq_none {table : Table} {criteria : List Criterion}
    (none_foreign : foreign? table criteria = none) :
    ∀ criterion ∈ criteria, table.contains criterion.field = true := by
  simpa [foreign?] using none_foreign

/-- The selection of the rows that meet every criterion of a list. -/
def build (table : Table) (criteria : List Criterion) : Except Error Selection :=
  match h : foreign? table criteria with
  | none => .ok ⟨table, criteria, bound_of_foreign?_eq_none h⟩
  | some criterion => .error (foreignError table criterion)

/-- The selection of all rows of a table. -/
def all (table : Table) : Selection :=
  ⟨table, [], by simp⟩

/-- A selection with one more criterion. -/
def and (selection : Selection) (criterion : Criterion) : Except Error Selection :=
  if h : selection.table.contains criterion.field = true then
    .ok ⟨selection.table, selection.criteria ++ [criterion], by
      intro member memberMem
      rcases List.mem_append.1 memberMem with old | new
      · exact selection.bound member old
      · rw [List.mem_singleton.1 new]
        exact h⟩
  else .error (foreignError selection.table criterion)

/-- Whether no criterion restricts the selection. -/
def isEmpty (selection : Selection) : Bool :=
  selection.criteria.isEmpty

end Selection

end TableStore
