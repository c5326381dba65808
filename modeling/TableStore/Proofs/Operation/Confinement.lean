import TableStore.Proofs.Operation.Basic
import TableStore.Proofs.Routing.Counterpart
import TableStore.School.Reference

/-!
# Operations stay in their environment

A request is an operation over a connection, and requests reach a server one after another. Each
statement of each of them names the schema that holds the table of the operation in the
environment of the connection, and no other schema.

Schemas of different environments are different, whatever their tables. So requests outside
production never name a schema that a table can be declared in.
-/

namespace TableStore

open Routing Server Sql

/-- An operation over a connection. -/
structure Request where
  connection : Connection
  operation : Operation

namespace Request

/-- The statements that requests send to a server one after another; behind a request that waits
for ever there is no other. -/
def statements {State : Type} (server : Backend State) : List Request → State → List Statement
  | [], _ => []
  | request :: rest, state =>
      let run := request.operation.run server request.connection state
      run.statements ++
        match run.ending with
        | .result _ => statements server rest run.state
        | .waiting => []

variable {State : Type} {server : Backend State}

/-- Every statement is one of a run of some request. -/
theorem exists_run_of_mem_statements {requests : List Request} {state : State}
    {statement : Statement} (sent : statement ∈ statements server requests state) :
    ∃ request ∈ requests, ∃ before,
      statement ∈ (request.operation.run server request.connection before).statements := by
  induction requests generalizing state with
  | nil => cases sent
  | cons request rest ih =>
      rcases List.mem_append.mp sent with own | later
      · exact ⟨request, List.mem_cons_self, state, own⟩
      · split at later
        · obtain ⟨other, member, before, found⟩ := ih later
          exact ⟨other, List.mem_cons_of_mem _ member, before, found⟩
        · cases later

end Request

/-- Every statement of every run of an operation names the schema that holds its table in the
environment of the connection, and no other schema and no other table. These schemas are different
in different environments, so requests outside production never name a schema of production. -/
theorem operations_stay_in_environment {State : Type} (server : Backend State) :
    (∀ (connection : Connection) (operation : Operation) (state : State),
      ∀ statement ∈ (operation.run server connection state).statements,
        statement.StaysIn
          ⟨physicalSchema operation.table.schema connection.environment,
            operation.table.name⟩) ∧
    (∀ (first second : Table) (a b : Environment), a ≠ b →
      physicalSchema first.schema a ≠ physicalSchema second.schema b) ∧
    (∀ (requests : List Request) (state : State),
      (∀ request ∈ requests, request.connection.environment ≠ .production) →
      ∀ statement ∈ Request.statements server requests state,
        ∀ table : Table, physicalSchema table.schema .production ∉ statement.schemas) := by
  have confined : ∀ (connection : Connection) (operation : Operation) (state : State),
      ∀ statement ∈ (operation.run server connection state).statements,
        statement.StaysIn (operation.table.physical connection.environment) :=
    fun connection operation state statement sent =>
      (operation.issues_of_mem_run server connection state statement sent).staysIn
  refine ⟨confined, fun first second a b => first.physicalSchema_ne second, ?_⟩
  intro requests state outside statement sent table named
  obtain ⟨request, member, before, found⟩ := Request.exists_run_of_mem_statements sent
  rw [(confined _ _ _ _ found).schemas, List.mem_singleton] at named
  exact table.physicalSchema_ne request.operation.table (outside request member).symm named

/-- Towns are validated in development on a server without their schema, and then counted in
testing. -/
theorem towns_stay_in_environment :
    ∃ (server : Backend Unit) (first second : Request) (sent : List Statement),
      (∀ request ∈ [first, second], request.connection.environment ≠ .production) ∧
      Request.statements server [first, second] () = sent ∧
      sent.map Statement.schemas = [["main_d"], ["main_d"], ["main_d"], ["main_t"]] ∧
      (∀ statement ∈ (second.operation.run server second.connection ()).statements,
        statement.StaysIn ⟨"main_t", "zip_code"⟩) ∧
      physicalSchema School.zipCode.schema .development ≠
        physicalSchema School.holdType.schema .testing ∧
      ∀ statement ∈ sent, ∀ table : Table,
        physicalSchema table.schema .production ∉ statement.schemas := by
  refine ⟨fun _ _ => (.answer { rows := [[.bool false]] }, ()),
    ⟨.usable .development none, .validate School.zipCode .buildIfMissing⟩,
    ⟨.usable .testing none, .count (.all School.zipCode)⟩, _, ?_, rfl, ?_, ?_, ?_, ?_⟩
  · decide
  · decide +kernel
  · exact (operations_stay_in_environment _).1 (.usable .testing none)
      (.count (.all School.zipCode)) ()
  · exact (operations_stay_in_environment fun (_ : Unit) _ => (.failure, ())).2.1 School.zipCode
      School.holdType .development .testing (by decide)
  · exact (operations_stay_in_environment _).2.2 _ () (by decide)

end TableStore
