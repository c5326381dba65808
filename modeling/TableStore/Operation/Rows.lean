import TableStore.Operation.Row
import TableStore.Server.Connection

/-!
# Operations on rows

Counting, reading, deleting, updating and inserting each send a single statement.
Arguments that do not belong together are turned down before the connection is
looked at, and inserting no records sends nothing.
-/

namespace TableStore

open Server Sql

namespace Selection

/-- Read a count of rows; a negative one cannot be a count. -/
def countOf (selection : Selection) (count : Int64) : Except Error Nat :=
  if 0 ≤ count.toInt then .ok count.toInt.toNat
  else .error (.decode selection.table.qualifiedName "count" (.negativeCount count.toInt))

/-- The number of the selected rows. -/
def count (connection : Connection) (selection : Selection) : Dialogue Nat :=
  connection.carry do
    let count ← connection.ask selection.table
      (.rows (selection.counting connection.environment)) Answer.count?
    .done (selection.countOf count)

/-- The selected rows as records. -/
def query (connection : Connection) (selection : Selection) : Dialogue (List Record) :=
  connection.carry <|
    .send (.rows (selection.reading connection.environment)) fun answer =>
      .done (Record.ofRows selection.table answer.columns answer.rows)

/-- Delete the selected rows and say how many there were. -/
def delete (connection : Connection) (selection : Selection) : Dialogue Nat :=
  connection.carry <|
    .send (.rows (selection.deletion connection.environment)) fun answer =>
      .done (.ok answer.affected)

end Selection

namespace Updates

/-- Update the selected rows and say how many there were. The update and the selection
must be of the same table. -/
def apply (connection : Connection) (updates : Updates) (selection : Selection) :
    Dialogue Nat :=
  if updates.table.sameAs selection.table then
    connection.carry <|
      .send (.rows (updates.statement selection connection.environment)) fun answer =>
        .done (.ok answer.affected)
  else
    .fail (.configuration
      (.updateElsewhere updates.table.qualifiedName selection.table.qualifiedName))

end Updates

namespace Table

/-- The first record that is of another table. -/
def foreignRecord? (table : Table) (records : List Record) : Option Record :=
  records.find? fun record => !record.table.sameAs table

/-- Insert records into a table, all or none, and say how many there were. Every record
must be of the same table. -/
def insert (connection : Connection) (table : Table) (records : List Record) :
    Dialogue Nat :=
  match table.foreignRecord? records with
  | some record =>
      .fail (.configuration
        (.recordElsewhere record.table.qualifiedName table.qualifiedName))
  | none =>
      connection.carry <|
        match table.insertion? connection.environment records with
        | none => .done (.ok 0)
        | some statement =>
            .send (.rows statement) fun answer => .done (.ok answer.affected)

end Table

end TableStore
