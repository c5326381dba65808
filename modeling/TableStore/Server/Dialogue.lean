import TableStore.Server.Answer

/-!
# Dialogues

A dialogue is what a client does over a connection: it is finished with a result, or it
sends one statement and goes on according to the answer. Running it against a server
stops at the first statement that fails or stays without an answer; the result
then names that statement, and the statements sent are recorded in order.

Without a time limit a client waits for ever for an answer that never comes, and the
run has no result.
-/

namespace TableStore.Server

open Sql

/-- A conversation with a server that ends in a result. -/
inductive Dialogue (α : Type) where
  | done (result : Except Error α)
  | send (statement : Statement) (next : Answer → Dialogue α)

namespace Dialogue

variable {α β : Type}

/-- The dialogue that goes on with the value of another; an error ends both. -/
def bind : Dialogue α → (α → Dialogue β) → Dialogue β
  | .done (.ok value), next => next value
  | .done (.error error), _ => .done (.error error)
  | .send statement rest, next => .send statement fun answer => (rest answer).bind next

instance : Monad Dialogue where
  pure value := .done (.ok value)
  bind := bind

/-- The dialogue that is over with an error. -/
def fail (error : Error) : Dialogue α :=
  .done (.error error)

/-- Send a statement and read its answer; an answer that cannot be read is the given
error. -/
def ask (statement : Statement) (read : Answer → Option α) (unreadable : Error) :
    Dialogue α :=
  .send statement fun answer =>
    .done (match read answer with
      | some value => .ok value
      | none => .error unreadable)

@[simp]
theorem bind_done_error (error : Error) (next : α → Dialogue β) :
    (done (.error error)).bind next = .done (.error error) :=
  rfl

@[simp]
theorem bind_send (statement : Statement) (rest : Answer → Dialogue α)
    (next : α → Dialogue β) :
    (send statement rest).bind next = .send statement fun answer => (rest answer).bind next :=
  rfl

end Dialogue

/-- The errors of a statement that fails and of one that stays without an answer; the
second is absent where there is no time limit. -/
structure Faults where
  failed : Statement → Error
  late? : Statement → Option Error

/-- How a run ends. -/
inductive Ending (α : Type) where
  | result (result : Except Error α)
  | waiting

/-- The end of a run, the statements sent in order and the state of the server after. -/
structure Run (State α : Type) where
  ending : Ending α
  statements : List Statement
  state : State

/-- Run a dialogue against a server. -/
def Dialogue.run {State α : Type} (server : Backend State) (faults : Faults) :
    Dialogue α → State → Run State α
  | .done result, state => ⟨.result result, [], state⟩
  | .send statement next, state =>
      match server state statement with
      | (.answer answer, state) =>
          let rest := run server faults (next answer) state
          { rest with statements := statement :: rest.statements }
      | (.failure, state) => ⟨.result (.error (faults.failed statement)), [statement], state⟩
      | (.silence, state) =>
          match faults.late? statement with
          | some error => ⟨.result (.error error), [statement], state⟩
          | none => ⟨.waiting, [statement], state⟩

end TableStore.Server
