import TableStore.Table.Basic

/-!
# Registries

A registry lists the tables of an application in the order in which they were
registered. A schema and a table name together may be registered only once, and look
a table up again.

Registering changes a registry and answers whether the table was taken in, so a refusal
comes with the registry that it leaves. Who builds a registry gives it up at the first
refusal.
-/

namespace TableStore

/-- The registered tables, oldest first. -/
structure Registry where
  tables : List Table := []
deriving DecidableEq

namespace Registry

/-- The registry without tables. -/
def empty : Registry :=
  {}

/-- The number of tables. -/
def size (registry : Registry) : Nat :=
  registry.tables.length

/-- Whether nothing is registered. -/
def isEmpty (registry : Registry) : Bool :=
  registry.tables.isEmpty

/-- The table with a schema and a name. -/
def get? (registry : Registry) (schema name : String) : Option Table :=
  registry.tables.find? fun table => table.schema == schema && table.name == name

/-- The tables of a tablespace, oldest first. -/
def inTablespace (registry : Registry) (tablespace : String) : List Table :=
  registry.tables.filter fun table => table.tablespace == tablespace

/-- Register a table: what is answered, and the registry afterwards. A table whose schema and
name are taken is refused. -/
def register (registry : Registry) (table : Table) : Except Error Unit × Registry :=
  if (registry.get? table.schema table.name).isSome then
    (.error (.configuration (.tableTwice table.qualifiedName)), registry)
  else (.ok (), ⟨registry.tables ++ [table]⟩)

/-- A registry with one more table, given up when the table is refused. -/
def extend (registry : Registry) (table : Table) : Except Error Registry :=
  match registry.register table with
  | (.ok (), next) => .ok next
  | (.error error, _) => .error error

/-- A registry with further tables, registered one after another. -/
def extendAll (registry : Registry) : List Table → Except Error Registry
  | [] => .ok registry
  | table :: rest => (registry.extend table).bind fun next => next.extendAll rest

end Registry

end TableStore
