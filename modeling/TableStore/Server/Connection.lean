import TableStore.Server.Dialogue
import TableStore.Statement.Rows

/-!
# Connections

A connection addresses one environment of one database product. Only a connection of
the product whose statements this library writes can be used; every other one is
turned down before anything is sent.

The scope of an operation is what its errors name: the table, the environment and the
time limit of its statements.
-/

namespace TableStore.Server

open Sql

/-- The database products that a connection may belong to. -/
inductive Product where
  | informix
  | oracle
  | postgreSql
  | mySql
  | cassandra
deriving DecidableEq, Repr

/-- The name of a product. -/
def Product.name : Product → String
  | .informix => "Informix"
  | .oracle => "Oracle"
  | .postgreSql => "PostgreSQL"
  | .mySql => "MySQL"
  | .cassandra => "Cassandra"

/-- The name of the implementation that sends the statements of this library. -/
def implementationName : String := "PostgreSQL"

/-- A connection: one that statements can be sent over, or a foreign one. -/
inductive Connection where
  | usable (environment : Environment) (limit : Option Duration)
  | foreign (product : Product) (environment : Environment)
deriving DecidableEq

namespace Connection

/-- The environment that a connection addresses. -/
def environment : Connection → Environment
  | .usable environment _ => environment
  | .foreign _ environment => environment

/-- The time limit of each statement, if there is one. -/
def limit : Connection → Option Duration
  | .usable _ limit => limit
  | .foreign _ _ => none

/-- The product behind a connection. -/
def product : Connection → Product
  | .usable _ _ => .postgreSql
  | .foreign product _ => product

/-- Whether statements can be sent over a connection. -/
def isUsable : Connection → Bool
  | .usable _ _ => true
  | .foreign _ _ => false

/-- A dialogue over a connection, turned down when the connection cannot be used. -/
def carry {α : Type} (connection : Connection) (dialogue : Dialogue α) : Dialogue α :=
  if connection.isUsable then dialogue
  else .fail (.unsupportedConnection implementationName connection.product.name)

/-- The error of a statement about a table that fails. -/
def failure (connection : Connection) (table : Table) (statement : Statement) : Error :=
  .statement table.qualifiedName connection.environment statement.text

/-- The error of a statement about a table that stays without an answer. -/
def lateness? (connection : Connection) (table : Table) (statement : Statement) :
    Option Error :=
  connection.limit.map
    (.timeout table.qualifiedName connection.environment statement.text)

/-- The errors of the statements about a table. -/
def faults (connection : Connection) (table : Table) : Faults :=
  ⟨connection.failure table, connection.lateness? table⟩

/-- Send a statement about a table and read its answer; an answer that cannot be read
counts as a failure of the statement. -/
def ask {α : Type} (connection : Connection) (table : Table) (statement : Statement)
    (read : Answer → Option α) : Dialogue α :=
  .ask statement read (connection.failure table statement)

end Connection

end TableStore.Server
