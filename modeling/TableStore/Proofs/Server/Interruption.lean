import TableStore.Proofs.Server.Sending

/-!
# Interrupted dialogues

The replies of a server decide what a dialogue sends next, and nothing else does. So two servers
that reply alike up to some statement are sent the same statements up to and with the next one.

A statement fails when the server reports a failure, or when its answer is not of the kind that the
statement asks for; it is late when there is no answer within the time limit. A dialogue that heeds
failures stops at a statement that fails or is late, with the error of that statement.
-/

namespace TableStore.Server

open Sql

/-- Whether an answer is of the kind that a statement asks for: a count, a truth value, or the
texts of one or three columns. The other statements take any answer. -/
def Answer.suits (answer : Answer) : Statement → Bool
  | .rows (.count _ _) => answer.count?.isSome
  | .catalog (.schemaExists _) | .catalog (.tableExists _) => answer.truth?.isSome
  | .catalog (.columns _) => answer.triples?.isSome
  | .catalog (.primaryKey _) => answer.texts?.isSome
  | _ => true

/-- Whether a reply is the failure of a statement. -/
def Reply.Fails (reply : Reply) (statement : Statement) : Prop :=
  match reply with
  | .answer content => content.suits statement = false
  | .failure => True
  | .silence => False

/-- The error of a reply to a statement, if it failed or came too late. -/
def Faults.error? (faults : Faults) (statement : Statement) (reply : Reply) : Option Error :=
  match reply with
  | .answer answer => if answer.suits statement then none else some (faults.failed statement)
  | .failure => some (faults.failed statement)
  | .silence => faults.late? statement

theorem Reply.Fails.error? {faults : Faults} {statement : Statement} {reply : Reply}
    (fails : reply.Fails statement) :
    faults.error? statement reply = some (faults.failed statement) := by
  cases reply with
  | answer content =>
      have unsuited : content.suits statement = false := fails
      simp [Faults.error?, unsuited]
  | failure => rfl
  | silence => exact fails.elim

namespace Dialogue

variable {State Other α β : Type} {server : Backend State} {faults : Faults}
  {failed : Statement → Error}

/-- The replies that a dialogue gets, in order. -/
def replies (server : Backend State) : Dialogue α → State → List Reply
  | .done _, _ => []
  | .send statement next, state =>
      match server state statement with
      | (.answer answer, after) => .answer answer :: replies server (next answer) after
      | (reply, _) => [reply]

/-- What comes of the first statement of a dialogue: it is answered and the dialogue goes on, or
it is the last statement. -/
theorem run_send (server : Backend State) (faults : Faults) (statement : Statement)
    (next : Answer → Dialogue α) (state : State) :
    (∃ answer after,
        (send statement next).replies server state =
          .answer answer :: (next answer).replies server after ∧
        ((send statement next).run server faults state).statements =
          statement :: ((next answer).run server faults after).statements ∧
        ((send statement next).run server faults state).ending =
          ((next answer).run server faults after).ending) ∨
      ∃ reply, (∀ answer, reply ≠ .answer answer) ∧
        (send statement next).replies server state = [reply] ∧
        ((send statement next).run server faults state).statements = [statement] ∧
        ∀ error, faults.error? statement reply = some error →
          ((send statement next).run server faults state).ending = .result (.error error) := by
  rw [replies, run]
  rcases server state statement with ⟨answer | failure | silence, after⟩
  · exact .inl ⟨answer, after, rfl, rfl, rfl⟩
  · refine .inr ⟨.failure, by simp, rfl, rfl, fun error fault => ?_⟩
    cases fault
    rfl
  · refine .inr ⟨.silence, by simp, rfl, ?_, fun error fault => ?_⟩
    · cases faults.late? statement <;> rfl
    · rw [Faults.error?] at fault
      simp only [fault]

/-- The first statement does not depend on a reply. -/
theorem head?_statements (server : Backend State) (faults : Faults) (statement : Statement)
    (next : Answer → Dialogue α) (state : State) :
    ((send statement next).run server faults state).statements.head? = some statement := by
  rcases run_send server faults statement next state with
    ⟨answer, after, -, statements, -⟩ | ⟨reply, -, -, statements, -⟩
  · rw [statements, List.head?_cons]
  · rw [statements, List.head?_cons]

/-- As long as servers reply alike, they are sent the same, and after that one statement more. -/
theorem take_statements_eq {other : Backend Other} (faults : Faults) (dialogue : Dialogue α)
    {state : State} {start : Other} {count : Nat}
    (alike : (dialogue.replies server state).take count =
      (dialogue.replies other start).take count) :
    (dialogue.run server faults state).statements.take (count + 1) =
      (dialogue.run other faults start).statements.take (count + 1) := by
  induction dialogue generalizing state start count with
  | done => rfl
  | send statement next ih =>
      cases count with
      | zero =>
          rw [List.take_one, List.take_one, head?_statements, head?_statements]
      | succ count =>
          rcases run_send server faults statement next state with
              ⟨answer, after, replies, statements, -⟩ | ⟨reply, last, replies, statements, -⟩ <;>
            rcases run_send other faults statement next start with
              ⟨answer', after', replies', statements', -⟩ |
                ⟨reply', last', replies', statements', -⟩ <;>
            rw [replies, replies', List.take_succ_cons, List.take_succ_cons,
              List.cons.injEq] at alike <;>
            rw [statements, statements']
          · obtain ⟨same, alike⟩ := alike
            cases same
            exact congrArg (statement :: ·) (ih answer alike)
          · exact absurd alike.1.symm (last' answer)
          · exact absurd alike.1 (last answer')

/-- Whether a dialogue ends at once with the error of a statement whose answer is not of its
kind. -/
def Heeds (failed : Statement → Error) : Dialogue α → Prop
  | .done _ => True
  | .send statement next => ∀ answer,
      (answer.suits statement = false → next answer = .done (.error (failed statement))) ∧
        (next answer).Heeds failed

theorem heeds_ask {statement : Statement} {read : Answer → Option α}
    (kind : ∀ answer : Answer, answer.suits statement = (read answer).isSome) :
    (ask statement read (failed statement)).Heeds failed := by
  refine fun answer => ⟨fun unsuited => ?_, trivial⟩
  rw [kind, Option.isSome_eq_false_iff, Option.isNone_iff_eq_none] at unsuited
  simp only [unsuited]

/-- A statement that takes any answer. -/
theorem heeds_single {statement : Statement} (any : ∀ answer : Answer, answer.suits statement)
    (finish : Answer → Except Error α) :
    (send statement fun answer => .done (finish answer)).Heeds failed :=
  fun answer => ⟨fun unsuited => absurd (any answer) (by simp [unsuited]), trivial⟩

theorem Heeds.bind {dialogue : Dialogue α} {next : α → Dialogue β} (first : dialogue.Heeds failed)
    (rest : ∀ value, (next value).Heeds failed) : (dialogue.bind next).Heeds failed := by
  induction dialogue with
  | done result =>
      cases result with
      | ok value => exact rest value
      | error error => trivial
  | send statement more ih =>
      refine fun answer => ⟨fun unsuited => ?_, ih answer (first answer).2⟩
      dsimp only
      rw [(first answer).1 unsuited, bind_done_error]

/-- A dialogue stops at a statement that fails or is late: nothing more is sent, and the error is
that of the statement. -/
theorem Heeds.stops {dialogue : Dialogue α} (heeds : dialogue.Heeds faults.failed) {state : State}
    {index : Nat} {statement : Statement} {reply : Reply} {error : Error}
    (sent : (dialogue.run server faults state).statements[index]? = some statement)
    (given : (dialogue.replies server state)[index]? = some reply)
    (fault : faults.error? statement reply = some error) :
    (dialogue.run server faults state).statements.length = index + 1 ∧
      (dialogue.run server faults state).ending = .result (.error error) := by
  induction dialogue generalizing state index with
  | done => simp [run] at sent
  | send first next ih =>
      rcases run_send server faults first next state with
        ⟨answer, after, replies, statements, ending⟩ | ⟨last, -, replies, statements, ending⟩
      · rw [replies] at given
        rw [statements] at sent ⊢
        rw [ending]
        cases index with
        | zero =>
            obtain rfl : first = statement := by simpa using sent
            obtain rfl : Reply.answer answer = reply := by simpa using given
            rw [Faults.error?, Option.ite_none_left_eq_some, Option.some.injEq] at fault
            obtain ⟨unsuited, rfl⟩ := fault
            rw [(heeds answer).1 (Bool.not_eq_true _ ▸ unsuited)]
            exact ⟨rfl, rfl⟩
        | succ index =>
            obtain ⟨length, ending⟩ := ih answer (heeds answer).2 sent given
            exact ⟨congrArg (· + 1) length, ending⟩
      · rw [replies] at given
        rw [statements] at sent ⊢
        cases index with
        | zero =>
            obtain rfl : first = statement := by simpa using sent
            obtain rfl : last = reply := by simpa using given
            exact ⟨rfl, ending error fault⟩
        | succ index => simp at sent

end Dialogue

/-- A connection that turns a dialogue down sends nothing that could fail. -/
theorem Connection.heeds_carry {α : Type} {failed : Statement → Error} (connection : Connection)
    {dialogue : Dialogue α} (heeds : dialogue.Heeds failed) :
    (connection.carry dialogue).Heeds failed := by
  unfold carry
  split
  · exact heeds
  · trivial

end TableStore.Server
