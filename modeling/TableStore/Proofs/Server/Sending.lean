import TableStore.Server.Connection

/-!
# What a dialogue can send

A dialogue sends only certain statements when each statement that it can come to, whatever the
answers before it were, is one of them. This is kept when dialogues follow one another, and every
run sends only what its dialogue can send.
-/

namespace TableStore.Server

open Sql

namespace Dialogue

variable {α β : Type} {allowed : Statement → Prop}

/-- Whether a dialogue sends only statements that are allowed, whatever it is answered. -/
def Sends (allowed : Statement → Prop) : Dialogue α → Prop
  | .done _ => True
  | .send statement next => allowed statement ∧ ∀ answer, (next answer).Sends allowed

/-- A single statement that is allowed. -/
theorem sends_single {statement : Statement} (allows : allowed statement)
    (finish : Answer → Except Error α) :
    (send statement fun answer => .done (finish answer)).Sends allowed :=
  ⟨allows, fun _ => trivial⟩

/-- Dialogues that follow one another. -/
theorem Sends.bind {dialogue : Dialogue α} {next : α → Dialogue β} (first : dialogue.Sends allowed)
    (rest : ∀ value, (next value).Sends allowed) : (dialogue.bind next).Sends allowed := by
  induction dialogue with
  | done result =>
      cases result with
      | ok value => exact rest value
      | error error => trivial
  | send statement more ih => exact ⟨first.1, fun answer => ih answer (first.2 answer)⟩

/-- A run sends only what its dialogue sends. -/
theorem Sends.statements {dialogue : Dialogue α} (sends : dialogue.Sends allowed) {State : Type}
    (server : Backend State) (faults : Faults) (state : State) :
    ∀ statement ∈ (dialogue.run server faults state).statements, allowed statement := by
  induction dialogue generalizing state with
  | done result => simp [run]
  | send statement next ih =>
      obtain ⟨allows, later⟩ := sends
      rw [run]
      rcases server state statement with ⟨answer | failure | silence, after⟩
      · exact List.forall_mem_cons.mpr ⟨allows, ih answer (later answer) after⟩
      -- without an answer the run is over, with or without an error
      · exact List.forall_mem_singleton.mpr allows
      · cases faults.late? statement <;> exact List.forall_mem_singleton.mpr allows

end Dialogue

/-- A dialogue of one statement sends it, whatever comes back. -/
theorem statements_run_send {State α : Type} (server : Backend State) (faults : Faults)
    (statement : Statement) (finish : Answer → Except Error α) (state : State) :
    ((Dialogue.send statement fun answer => .done (finish answer)).run server faults
      state).statements = [statement] := by
  rw [Dialogue.run]
  split
  · rfl
  · rfl
  · split <;> rfl

/-- A connection carries what its dialogue sends, or nothing. -/
theorem Connection.sends_carry {α : Type} {allowed : Statement → Prop} (connection : Connection)
    {dialogue : Dialogue α} (sends : dialogue.Sends allowed) :
    (connection.carry dialogue).Sends allowed := by
  unfold carry
  split
  · exact sends
  · trivial

theorem Connection.sends_ask {α : Type} {allowed : Statement → Prop} (connection : Connection)
    (table : Table) {statement : Statement} (allows : allowed statement)
    (read : Answer → Option α) : (connection.ask table statement read).Sends allowed :=
  Dialogue.sends_single allows _

end TableStore.Server
