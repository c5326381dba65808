import TableStore.Proofs.Operation.Basic
import TableStore.Proofs.Server.Interruption
import TableStore.Proofs.Validation.Replies
import TableStore.School.Reference

/-!
# Interrupted operations

An operation stops at the first statement that fails or is late. Its error names the table, the
environment and the text of that statement, and what was sent up to then is what is sent when the
statement succeeds.

A validation that comes to an end reports the statements about structure that it sent, each once
and in order.
-/

namespace TableStore

open Server Sql Validation

/-! ## What a validation is made of -/

namespace Validation

variable (connection : Connection) (table : Table) (action : Action)

/-- What holds of catalog queries and of single definitions, and is kept when dialogues follow one
another, holds of settling discrepancies. -/
theorem settleAll_induction {motive : ∀ {α : Type}, Dialogue α → Prop}
    (done : ∀ {α : Type} (value : α), motive (.done (.ok value)))
    (bind : ∀ {α β : Type} {dialogue : Dialogue α} {next : α → Dialogue β}, motive dialogue →
      (∀ value, motive (next value)) → motive (dialogue.bind next))
    (define : ∀ {α : Type} (definition : Definition) (value : α),
      motive (.send (.definition definition) fun _ => .done (.ok value)))
    (report : Report) (discrepancies : List Discrepancy) :
    motive (settleAll connection table action report discrepancies) := by
  induction discrepancies generalizing report with
  | nil => exact done report
  | cons discrepancy rest ih =>
      apply bind
      · unfold settle
        split
        · exact define _ _
        · exact done _
      · exact ih

/-- The same holds of a whole validation, each of whose queries is read according to its kind. -/
theorem validate_induction {motive : ∀ {α : Type}, Dialogue α → Prop}
    (done : ∀ {α : Type} (value : α), motive (.done (.ok value)))
    (bind : ∀ {α β : Type} {dialogue : Dialogue α} {next : α → Dialogue β}, motive dialogue →
      (∀ value, motive (next value)) → motive (dialogue.bind next))
    (define : ∀ {α : Type} (definition : Definition) (value : α),
      motive (.send (.definition definition) fun _ => .done (.ok value)))
    (ask : ∀ {α : Type} {query : CatalogQuery} {read : Answer → Option α},
      (∀ answer : Answer, answer.suits (.catalog query) = (read answer).isSome) →
      motive (askCatalog connection table query read))
    (usable : connection.isUsable = true) : motive (table.validate connection action) := by
  have settled := @settleAll_induction connection table action motive done bind define
  rw [validate_eq connection usable]
  refine bind (ask fun _ => rfl) fun schemaThere => bind (settled _ _) fun report => bind ?_ ?_
  · unfold askTable
    split
    · exact ask fun _ => rfl
    · exact done false
  · intro tableThere
    split
    · rw [validatePresent_eq]
      exact bind (ask fun _ => rfl) fun columns => bind (settled _ _) fun report =>
        bind (ask fun _ => rfl) fun key => bind (settled _ _) fun report => done _
    · exact bind (settled _ _) fun report => done _

end Validation

/-! ## Stopping -/

namespace Operation

/-- Every operation heeds failures. -/
theorem heeds_dialogue (connection : Connection) (operation : Operation) :
    (operation.dialogue connection).Heeds (connection.failure operation.table) := by
  cases operation with
  | count selection =>
      exact connection.heeds_carry ((Dialogue.heeds_ask fun _ => rfl).bind fun _ => trivial)
  | query selection => exact connection.heeds_carry (Dialogue.heeds_single (fun _ => rfl) _)
  | delete selection => exact connection.heeds_carry (Dialogue.heeds_single (fun _ => rfl) _)
  | update updates selection =>
      simp only [dialogue, Updates.apply]
      split
      · exact connection.heeds_carry (Dialogue.heeds_single (fun _ => rfl) _)
      · trivial
  | insert table records =>
      simp only [dialogue, Table.insert]
      split
      · trivial
      · apply connection.heeds_carry
        cases records with
        | nil => trivial
        | cons record records => exact Dialogue.heeds_single (fun _ => rfl) _
  | validate table action =>
      cases usable : connection.isUsable with
      | true =>
          exact Validation.validate_induction connection table action
            (fun _ => trivial) Dialogue.Heeds.bind
            (fun definition value => Dialogue.heeds_single (fun _ => rfl) fun _ => .ok value)
            Dialogue.heeds_ask usable
      | false =>
          simp only [dialogue, Table.validate, Connection.carry, usable]
          trivial

/-- The replies to an operation, in order. -/
def replies {State : Type} (server : Backend State) (connection : Connection)
    (operation : Operation) (state : State) : List Reply :=
  (operation.dialogue connection).replies server state

/-- Whether an operation stops at a statement with an error: the statement is the last one, and
what is sent up to it is what any server is sent that replies alike before it and answers it. -/
structure StopsAt {State : Type} (operation : Operation) (server : Backend State)
    (connection : Connection) (state : State) (index : Nat) (error : Error) : Prop where
  last : (operation.run server connection state).statements.length = index + 1
  ending : (operation.run server connection state).ending = .result (.error error)
  same : ∀ {Other : Type} (other : Backend Other) (start : Other) (answer : Answer),
    (operation.replies other connection start).take index =
      (operation.replies server connection state).take index →
    (operation.replies other connection start)[index]? = some (.answer answer) →
    (operation.run server connection state).statements =
      (operation.run other connection start).statements.take (index + 1)

variable {State : Type} {server : Backend State} {connection : Connection}

/-- An operation stops at a statement that fails or is late. -/
theorem stopsAt_of_error? {operation : Operation} {state : State} {index : Nat}
    {statement : Statement} {reply : Reply} {error : Error}
    (sent : (operation.run server connection state).statements[index]? = some statement)
    (given : (operation.replies server connection state)[index]? = some reply)
    (fault : (connection.faults operation.table).error? statement reply = some error) :
    operation.StopsAt server connection state index error := by
  have heeds : (operation.dialogue connection).Heeds (connection.faults operation.table).failed :=
    operation.heeds_dialogue connection
  obtain ⟨last, ending⟩ := heeds.stops sent given fault
  refine ⟨last, ending, fun other start answer alike _ => ?_⟩
  have same := Dialogue.take_statements_eq (connection.faults operation.table)
    (operation.dialogue connection) alike
  exact (List.take_of_length_le last.le).symm.trans same.symm

end Operation

/-! ## Reporting -/

namespace Server.Dialogue

variable {State α β : Type}

/-- The text of a statement that is not a catalog query, as a list. -/
def ledger (statement : Statement) : List String :=
  if statement.isCatalogQuery then [] else [statement.text]

/-- Whether a dialogue that gives a value has kept a ledger of the statements sent that are no
catalog queries, begun with some texts. -/
def Keeps (kept : α → List String) (begun : List String) : Dialogue α → Prop
  | .done (.ok value) => kept value = begun
  | .done (.error _) => True
  | .send statement next => ∀ answer, (next answer).Keeps kept (begun ++ ledger statement)

theorem Keeps.bind {dialogue : Dialogue α} {next : α → Dialogue β} {begun : List String}
    {first : α → List String} {second : β → List String} (keeps : dialogue.Keeps first begun)
    (rest : ∀ value, (next value).Keeps second (first value)) :
    (dialogue.bind next).Keeps second begun := by
  induction dialogue generalizing begun with
  | done result =>
      cases result with
      | ok value => exact (show first value = begun from keeps) ▸ rest value
      | error error => trivial
  | send statement more ih => exact fun answer => ih answer (keeps answer)

/-- A catalog query leaves the ledger as it is. -/
theorem keeps_ask {query : CatalogQuery} {read : Answer → Option α} {unreadable : Error}
    {begun : List String} :
    (ask (.catalog query) read unreadable).Keeps (fun _ => begun) begun := by
  intro answer
  dsimp only
  split
  · exact (List.append_nil begun).symm
  · trivial

/-- A run that gives a value has written its statements into the ledger. -/
theorem Keeps.run {dialogue : Dialogue α} {kept : α → List String} {begun : List String}
    (keeps : dialogue.Keeps kept begun) {server : Backend State} {faults : Faults} {state : State}
    {value : α} (ending : (dialogue.run server faults state).ending = .result (.ok value)) :
    kept value = begun ++ (dialogue.run server faults state).statements.flatMap ledger := by
  have ends := ends_of_ending ending
  generalize (dialogue.run server faults state).statements = sent at ends ⊢
  generalize (dialogue.run server faults state).state = final at ends
  clear ending
  generalize given : Except.ok value = result at ends
  induction ends generalizing begun with
  | done =>
      subst given
      rw [List.flatMap_nil, List.append_nil]
      exact keeps
  | send answered _ ih =>
      rw [List.flatMap_cons, ← List.append_assoc]
      exact ih (keeps _) given

end Server.Dialogue

namespace Validation

variable {connection : Connection} {table : Table} {action : Action}

/-- The texts of the statements that a report lists as executed. -/
def Report.texts (report : Report) : List String :=
  report.executed.map Definition.text

theorem keeps_settle (report : Report) (discrepancy : Discrepancy) :
    (settle connection table action report discrepancy).Keeps Report.texts report.texts := by
  unfold settle
  split
  · intro answer
    simp [Dialogue.Keeps, Dialogue.ledger, Report.texts, Report.execute,
      Statement.isCatalogQuery, Statement.text]
  · rfl

theorem keeps_settleAll (report : Report) (discrepancies : List Discrepancy) :
    (settleAll connection table action report discrepancies).Keeps Report.texts
      report.texts := by
  induction discrepancies generalizing report with
  | nil => rfl
  | cons discrepancy rest ih => exact (keeps_settle report discrepancy).bind ih

theorem keeps_validatePresent (report : Report) :
    (validatePresent connection table action report).Keeps (·.result.actionsTaken)
      report.texts := by
  rw [validatePresent_eq]
  refine Dialogue.keeps_ask.bind fun columns => (keeps_settleAll report _).bind fun report => ?_
  exact Dialogue.keeps_ask.bind fun key => (keeps_settleAll report _).bind fun report => rfl

/-- A validation keeps a ledger of what it does. -/
theorem keeps_validate :
    (table.validate connection action).Keeps (·.result.actionsTaken) [] := by
  cases usable : connection.isUsable with
  | false =>
      simp only [Table.validate, Connection.carry, usable]
      trivial
  | true =>
      rw [validate_eq connection usable]
      refine Dialogue.keeps_ask.bind fun schemaThere =>
        (keeps_settleAll {} _).bind fun report => ?_
      have asked : (askTable connection table schemaThere).Keeps (fun _ => report.texts)
          report.texts := by
        unfold askTable
        split
        · exact Dialogue.keeps_ask
        · rfl
      refine asked.bind fun tableThere => ?_
      split
      · exact keeps_validatePresent report
      · exact (keeps_settleAll report _).bind fun report => rfl

end Validation

/-- An operation stops at a statement that fails or stays without an answer within the time limit.
Its error names the table, the environment and the text of the statement, and up to the statement
the same is sent as when it succeeds. A validation that comes to an end reports exactly the
statements that it sent besides catalog queries, in order. -/
theorem operations_stop_and_report {State : Type} (server : Backend State)
    (connection : Connection) (state : State) :
    (∀ (operation : Operation) (index : Nat) (statement : Statement) (reply : Reply),
      (operation.run server connection state).statements[index]? = some statement →
      (operation.replies server connection state)[index]? = some reply →
        (reply.Fails statement →
          operation.StopsAt server connection state index
            (.statement operation.table.qualifiedName connection.environment statement.text)) ∧
        ∀ limit, connection.limit = some limit → reply = .silence →
          operation.StopsAt server connection state index
            (.timeout operation.table.qualifiedName connection.environment statement.text
              limit)) ∧
    ∀ (table : Table) (action : Action) (status : TableStatus),
      ((Operation.validate table action).run server connection state).ending =
        .result (.ok status) →
      status.result.actionsTaken =
        (((Operation.validate table action).run server connection state).statements.filter
          (!·.isCatalogQuery)).map Statement.text := by
  constructor
  · intro operation index statement reply sent given
    refine ⟨fun fails => Operation.stopsAt_of_error? sent given fails.error?, ?_⟩
    rintro limit limited rfl
    apply Operation.stopsAt_of_error? sent given
    simp [Faults.error?, Connection.faults, Connection.lateness?, limited]
  · intro table action status ending
    have kept := Validation.keeps_validate.run ending
    have listed (sent : List Statement) : sent.flatMap Dialogue.ledger =
        (sent.filter (!·.isCatalogQuery)).map Statement.text := by
      induction sent with
      | nil => rfl
      | cons statement rest ih =>
          rw [List.flatMap_cons, ih, Dialogue.ledger, List.filter_cons]
          cases statement.isCatalogQuery <;> rfl
    rw [kept, List.nil_append, listed]
    rfl

/-- A server that has nothing, and after some statements fails. -/
def Server.bareFor (statements : Nat) : Backend Nat := fun sent _ =>
  (if sent < statements then .answer { rows := [[.bool false]] } else .failure, sent + 1)

/-- The postal codes are built on a server that fails at the third statement, and on one that does
not. -/
theorem zip_codes_stop_and_report :
    (Operation.validate School.zipCode .buildIfMissing).StopsAt (bareFor 2)
      (.usable .testing none) 0 2
      (.statement "main.zip_code" .testing (School.zipCode.creation .testing).text) ∧
    ∃ status,
      ((Operation.validate School.zipCode .buildIfMissing).run (bareFor 3) (.usable .testing none)
        0).ending = .result (.ok status) ∧
      status.result.actionsTaken =
        [(School.zipCode.schemaCreation .testing).text,
          (School.zipCode.creation .testing).text] := by
  refine ⟨?_, _, rfl, ?_⟩
  · exact ((operations_stop_and_report (bareFor 2) (.usable .testing none) 0).1
      (.validate School.zipCode .buildIfMissing) 2
      (.definition (School.zipCode.creation .testing)) .failure rfl rfl).1 trivial
  · exact (operations_stop_and_report (bareFor 3) (.usable .testing none) 0).2 School.zipCode
      .buildIfMissing _ rfl

end TableStore
