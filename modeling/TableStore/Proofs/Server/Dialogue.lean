import TableStore.Server.Dialogue

/-!
# Runs in which every statement is answered

A dialogue ends against a server when it comes to a result and every statement on the way was
answered. Its run is then determined by the statements sent, the result and the last state, and
the run of two dialogues one after the other is put together from theirs.

A run that gives a value is always one of these, because a failure or a silence ends in an error.
-/

namespace TableStore.Server

open Sql

variable {State α β : Type}

/-- Whether a dialogue, begun in a state, sends some statements, all of which are answered, and
ends with a result in another state. -/
inductive Dialogue.Ends (server : Backend State) :
    Dialogue α → State → List Statement → Except Error α → State → Prop where
  | done (result : Except Error α) (state : State) :
      Ends server (.done result) state [] result state
  | send {statement : Statement} {next : Answer → Dialogue α} {state middle final : State}
      {answer : Answer} {sent : List Statement} {result : Except Error α}
      (answered : server state statement = (.answer answer, middle))
      (rest : Ends server (next answer) middle sent result final) :
      Ends server (.send statement next) state (statement :: sent) result final

namespace Dialogue

variable {server : Backend State} {faults : Faults} {state final : State}
  {sent : List Statement}

/-- The run of a dialogue that ends. -/
theorem Ends.run_eq {dialogue : Dialogue α} {result : Except Error α}
    (ends : Ends server dialogue state sent result final) :
    dialogue.run server faults state = ⟨.result result, sent, final⟩ := by
  induction ends with
  | done => rfl
  | send answered _ ih =>
      rw [run, answered]
      simp only [ih]

/-- A run that gives a value has ended with every statement answered. -/
theorem ends_of_ending {dialogue : Dialogue α} {value : α}
    (ending : (dialogue.run server faults state).ending = .result (.ok value)) :
    Ends server dialogue state (dialogue.run server faults state).statements (.ok value)
      (dialogue.run server faults state).state := by
  induction dialogue generalizing state with
  | done result =>
      cases ending
      exact .done ..
  | send statement next ih =>
      rw [run] at ending ⊢
      cases replied : server state statement with
      | mk reply middle =>
          rw [replied] at ending
          cases reply with
          | answer answer => exact .send replied (ih answer ending)
          | failure => cases ending
          | silence =>
              cases late : faults.late? statement with
              | none => simp [late] at ending
              | some error => simp [late] at ending

/-- A dialogue that has ended with a value goes on. -/
theorem Ends.bind {dialogue : Dialogue α} {next : α → Dialogue β} {value : α} {middle : State}
    {more : List Statement} {result : Except Error β}
    (first : Ends server dialogue state sent (.ok value) middle)
    (second : Ends server (next value) middle more result final) :
    Ends server (dialogue.bind next) state (sent ++ more) result final := by
  generalize given : Except.ok value = outcome at first
  induction first with
  | done =>
      subst given
      exact second
  | send answered _ ih => exact .send answered (ih second given)

/-- A dialogue that has ended with a value is finished without further statements. -/
theorem Ends.finish {dialogue : Dialogue α} {value : α}
    (first : Ends server dialogue state sent (.ok value) final) (finish : α → Except Error β) :
    Ends server (dialogue.bind fun value => .done (finish value)) state sent (finish value)
      final := by
  have second : Ends server (.done (finish value)) final [] (finish value) final := .done ..
  have finished : Ends server (dialogue.bind fun value => .done (finish value)) state (sent ++ [])
      (finish value) final := first.bind second
  rwa [List.append_nil] at finished

/-- The parts of a dialogue that ends. -/
theorem ends_of_bind {dialogue : Dialogue α} {next : α → Dialogue β} {result : Except Error β}
    (ends : Ends server (dialogue.bind next) state sent result final) :
    (∃ error, Ends server dialogue state sent (.error error) final ∧ result = .error error) ∨
      ∃ value first middle more, Ends server dialogue state first (.ok value) middle ∧
        Ends server (next value) middle more result final ∧ sent = first ++ more := by
  induction dialogue generalizing state sent with
  | done outcome =>
      cases outcome with
      | error error =>
          cases ends
          exact .inl ⟨error, .done .., rfl⟩
      | ok value => exact .inr ⟨value, [], state, sent, .done .., ends, rfl⟩
  | send statement rest ih =>
      cases ends with
      | send answered ends =>
          rcases ih _ ends with
            ⟨error, failed, same⟩ | ⟨value, first, middle, more, begun, rest, rfl⟩
          · exact .inl ⟨error, .send answered failed, same⟩
          · exact .inr ⟨value, _, middle, more, .send answered begun, rest, rfl⟩

/-- A dialogue that begins with one whose end is known goes on from there. -/
theorem Ends.rest {dialogue : Dialogue α} {next : α → Dialogue β} {result : Except Error β}
    (ends : Ends server (dialogue.bind next) state sent result final) {value : α}
    {reached : State → Prop}
    (known : ∀ {first outcome middle}, Ends server dialogue state first outcome middle →
      outcome = .ok value ∧ reached middle) :
    ∃ middle more, reached middle ∧ Ends server (next value) middle more result final := by
  rcases ends_of_bind ends with ⟨error, failed, -⟩ | ⟨other, first, middle, more, begun, rest, -⟩
  · cases (known failed).1
  · obtain ⟨same, holds⟩ := known begun
    cases same
    exact ⟨middle, more, holds, rest⟩

/-- Whether every statement of a dialogue is answered. -/
def Succeeds (server : Backend State) (dialogue : Dialogue α) (state : State) : Prop :=
  ∃ sent result final, Ends server dialogue state sent result final

/-- Asking for an answer that can be read. -/
theorem ends_ask {statement : Statement} {read : Answer → Option α} {unreadable : Error}
    {answer : Answer} {value : α} (answered : server state statement = (.answer answer, final))
    (readable : read answer = some value) :
    Ends server (ask statement read unreadable) state [statement] (.ok value) final := by
  apply Ends.send answered
  rw [readable]
  exact .done ..

/-- What was asked has been answered. -/
theorem ends_of_ask {statement : Statement} {read : Answer → Option α} {unreadable : Error}
    {result : Except Error α}
    (ends : Ends server (ask statement read unreadable) state sent result final) :
    ∃ answer, server state statement = (.answer answer, final) ∧ sent = [statement] ∧
      result = (match read answer with
        | some value => .ok value
        | none => .error unreadable) := by
  cases ends with
  | send answered rest =>
      cases rest
      exact ⟨_, answered, rfl, rfl⟩

end Dialogue

end TableStore.Server
