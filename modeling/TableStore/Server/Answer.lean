import TableStore.Sql.Statement

/-!
# Answers of a server

A server answers a statement with a result table and the number of rows it changed,
reports a failure, or never answers. The cells of a result carry their native type;
an empty cell has none.

A server is any function from its state and a statement to a reply and its next state,
so a lost connection is a state in which every statement fails.

This is the part of the driver `sqlx` that a caller sees: it sends a statement and gives the rows,
the count or an error.
-/

namespace TableStore.Server

open Binary Calendar Sql

/-- A cell of a result. -/
inductive Cell where
  | null
  | characters (text : String)
  | bool (truth : Bool)
  | int2 (number : Int16)
  | int4 (number : Int32)
  | int8 (number : Int64)
  | float4 (number : Single)
  | float8 (number : Double)
  | bytea (bytes : List UInt8)
  | date (date : Date)
  | time (time : Time)
  | timestamp (date : Date) (time : Time)
  | timestamptz (date : Date) (time : Time)
  | other (type text : String)
deriving DecidableEq

/-- A successful answer: the names and cells of a result, and the number of rows changed. -/
structure Answer where
  columns : List String := []
  rows : List (List Cell) := []
  affected : Nat := 0
deriving DecidableEq

/-- What comes back for a statement. -/
inductive Reply where
  | answer (answer : Answer)
  | failure
  | silence
deriving DecidableEq

/-- A server with a state: what it replies to a statement, and its next state. -/
abbrev Backend (State : Type) := State → Statement → Reply × State

namespace Answer

/-- The first cell of the first row. -/
def firstCell? (answer : Answer) : Option Cell :=
  answer.rows.head?.bind List.head?

/-- The truth value in the first cell. -/
def truth? (answer : Answer) : Option Bool :=
  match answer.firstCell? with
  | some (.bool truth) => some truth
  | _ => none

/-- The count in the first cell. -/
def count? (answer : Answer) : Option Int64 :=
  match answer.firstCell? with
  | some (.int8 count) => some count
  | _ => none

/-- The text of a cell of characters. -/
def characters? : Cell → Option String
  | .characters text => some text
  | _ => none

/-- The texts of a result of one column of characters. -/
def texts? (answer : Answer) : Option (List String) :=
  answer.rows.mapM fun row =>
    match row with
    | cell :: _ => characters? cell
    | [] => none

/-- The texts of a result of three columns of characters. -/
def triples? (answer : Answer) : Option (List (String × String × String)) :=
  answer.rows.mapM fun row =>
    match row with
    | a :: b :: c :: _ => do
        let a ← characters? a
        let b ← characters? b
        let c ← characters? c
        return (a, b, c)
    | _ => none

end Answer

end TableStore.Server
