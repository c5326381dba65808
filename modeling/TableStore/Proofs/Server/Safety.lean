import TableStore.Proofs.Server.Catalog

/-!
# Dialogues that can be cut short

A dialogue secures a condition on the states of a server when the condition holds wherever a run can
be over: at its end, after a statement that fails, and after one that stays without an answer. As
long as a dialogue only goes on, something more precise may hold of the value that it has reached.

A server obeys when it answers the queries of the catalog from a catalog and changes the catalog
only by statements about structure. Each of these is either executed as a whole or has no effect;
the reply may not tell which.
-/

namespace TableStore.Server

open Sql

namespace Dialogue

variable {State α β : Type} {server : Backend State} {safe : State → Prop}

/-- Whether a dialogue, begun in a state, is only ever over in safe states, and has given its value
in a state in which it may. -/
inductive Secures (server : Backend State) (safe : State → Prop) (reached : α → State → Prop) :
    Dialogue α → State → Prop where
  | value {value : α} {state : State} (holds : reached value state) :
      Secures server safe reached (.done (.ok value)) state
  | error (error : Error) {state : State} (holds : safe state) :
      Secures server safe reached (.done (.error error)) state
  | answered {statement : Statement} {next : Answer → Dialogue α} {state after : State}
      {answer : Answer} (replied : server state statement = (.answer answer, after))
      (rest : Secures server safe reached (next answer) after) :
      Secures server safe reached (.send statement next) state
  | cut {statement : Statement} {next : Answer → Dialogue α} {state after : State}
      {reply : Reply} (unanswered : ∀ answer, reply ≠ .answer answer)
      (replied : server state statement = (reply, after)) (holds : safe after) :
      Secures server safe reached (.send statement next) state

/-- A statement after which the state is safe, and from whose answer the dialogue goes on. -/
theorem secures_send {reached : α → State → Prop} {statement : Statement}
    {next : Answer → Dialogue α} {state : State} (holds : safe (server state statement).2)
    (rest : ∀ answer after, server state statement = (.answer answer, after) →
      (next answer).Secures server safe reached after) :
    (send statement next).Secures server safe reached state := by
  rcases replied : server state statement with ⟨reply, after⟩
  rw [replied] at holds
  cases reply with
  | answer answer => exact .answered replied (rest answer after replied)
  | failure => exact .cut (by simp) replied holds
  | silence => exact .cut (by simp) replied holds

/-- An answer that cannot be read ends the dialogue in a safe state. -/
theorem secures_ask {reached : α → State → Prop} {statement : Statement}
    {read : Answer → Option α} {unreadable : Error} {state : State}
    (holds : safe (server state statement).2)
    (given : ∀ answer after value, server state statement = (.answer answer, after) →
      read answer = some value → reached value after) :
    (ask statement read unreadable).Secures server safe reached state := by
  refine secures_send holds fun answer after replied => ?_
  rw [replied] at holds
  cases readable : read answer with
  | some value => exact .value (given answer after value replied readable)
  | none => exact .error unreadable holds

/-- Dialogues that follow one another. -/
theorem Secures.bind {dialogue : Dialogue α} {next : α → Dialogue β} {state : State}
    {middle : α → State → Prop} {reached : β → State → Prop}
    (first : dialogue.Secures server safe middle state)
    (rest : ∀ value after, middle value after →
      (next value).Secures server safe reached after) :
    (dialogue.bind next).Secures server safe reached state := by
  induction first with
  | value holds => exact rest _ _ holds
  | error error holds => exact .error error holds
  | answered replied _ ih => exact .answered replied ih
  | cut unanswered replied holds => exact .cut unanswered replied holds

theorem Secures.mono {dialogue : Dialogue α} {state : State} {wider : State → Prop}
    {reached other : α → State → Prop} (secures : dialogue.Secures server safe reached state)
    (safer : ∀ state, safe state → wider state)
    (further : ∀ value state, reached value state → other value state) :
    dialogue.Secures server wider other state := by
  induction secures with
  | value holds => exact .value (further _ _ holds)
  | error error holds => exact .error error (safer _ holds)
  | answered replied _ ih => exact .answered replied ih
  | cut unanswered replied holds => exact .cut unanswered replied (safer _ holds)

/-- However a run is cut short, it is over in a safe state. -/
theorem Secures.run {dialogue : Dialogue α} {state : State}
    (secures : dialogue.Secures server safe (fun _ => safe) state) (faults : Faults) :
    safe (dialogue.run server faults state).state := by
  induction secures with
  | value holds => exact holds
  | error error holds => exact holds
  | answered replied _ ih =>
      rw [Dialogue.run, replied]
      exact ih
  | @cut statement next _ _ reply unanswered replied holds =>
      rw [Dialogue.run, replied]
      cases reply with
      | answer answer => exact absurd rfl (unanswered answer)
      | failure => exact holds
      | silence => cases faults.late? statement <;> exact holds

end Dialogue

/-- Whether a server answers the queries of the catalog from a catalog, which a view of its state
shows, and changes the catalog at most as a statement about structure says. -/
structure Obeys {State : Type} (server : Backend State) (view : State → Catalog) : Prop where
  queried : ∀ state query answer after,
    server state (.catalog query) = (.answer answer, after) →
      answer.rows = (view state).rows query
  kept : ∀ state query, view (server state (.catalog query)).2 = view state
  changed : ∀ state definition,
    view (server state (.definition definition)).2 = view state ∨
      ∃ read, Definition.ofText? (Statement.definition definition).text = some read ∧
        (view state).execute? read = some (view (server state (.definition definition)).2)

/-- A server whose state is a catalog and the number of statements that it still takes; after these
every statement fails. -/
def Catalog.failingServer : Backend (Catalog × Nat) := fun state statement =>
  match state with
  | (catalog, 0) => (.failure, catalog, 0)
  | (catalog, rest + 1) =>
      ((Catalog.server catalog statement).1, (Catalog.server catalog statement).2, rest)

/-- A server that keeps a catalog obeys also when it fails from some statement on. -/
theorem Catalog.obeys_failingServer : Obeys Catalog.failingServer Prod.fst where
  queried := by
    rintro ⟨catalog, _ | rest⟩ query answer after answered
    · cases answered
    · cases answered
      rfl
  kept := by
    rintro ⟨catalog, _ | rest⟩ query <;> rfl
  changed := by
    rintro ⟨catalog, _ | rest⟩ definition
    · exact .inl rfl
    · change (Catalog.server catalog (.definition definition)).2 = catalog ∨ ∃ read, _ ∧
        catalog.execute? read = some (Catalog.server catalog (.definition definition)).2
      cases obeyed : catalog.obey? definition with
      | none =>
          left
          simp [Catalog.server, obeyed]
      | some after =>
          obtain ⟨readable, executed⟩ := Option.ite_none_right_eq_some.mp obeyed
          right
          refine ⟨definition, Definition.ofText?_text readable, ?_⟩
          simp [Catalog.server, obeyed, executed]

end TableStore.Server
