import TableStore.Proofs.Operation.Interruption
import TableStore.Proofs.Operation.Row
import TableStore.Proofs.Table.Equality

/-!
# Contact with the server

An error says whether the server or the caller is to blame. For operations this tells exactly
whether anything was sent: what is checked before is the caller's, and all that can go wrong
afterwards is the server's.

An operation on rows sends one statement when it succeeds, except that inserting no records sends
nothing.
-/

namespace TableStore

open Server Sql Validation

namespace Server.Dialogue

variable {State α β : Type} {allowed : Error → Prop}

/-- Whether every error that a dialogue gives, whatever it is answered, is allowed. -/
def FailsOnly (allowed : Error → Prop) : Dialogue α → Prop
  | .done (.ok _) => True
  | .done (.error error) => allowed error
  | .send _ next => ∀ answer, (next answer).FailsOnly allowed

theorem FailsOnly.bind {dialogue : Dialogue α} {next : α → Dialogue β}
    (first : dialogue.FailsOnly allowed) (rest : ∀ value, (next value).FailsOnly allowed) :
    (dialogue.bind next).FailsOnly allowed := by
  induction dialogue with
  | done result =>
      cases result with
      | ok value => exact rest value
      | error error => exact first
  | send statement more ih => exact fun answer => ih answer (first answer)

theorem failsOnly_ask {statement : Statement} {read : Answer → Option α} {unreadable : Error}
    (allows : allowed unreadable) : (ask statement read unreadable).FailsOnly allowed := by
  intro answer
  dsimp only
  split
  · trivial
  · exact allows

/-- The errors of a run are those of its dialogue and of the statements. -/
theorem FailsOnly.run {dialogue : Dialogue α} (fails : dialogue.FailsOnly allowed)
    {faults : Faults} (failed : ∀ statement, allowed (faults.failed statement))
    (late : ∀ statement, ∀ error ∈ faults.late? statement, allowed error)
    {server : Backend State} {state : State} {error : Error}
    (ending : (dialogue.run server faults state).ending = .result (.error error)) :
    allowed error := by
  induction dialogue generalizing state with
  | done result =>
      cases ending
      exact fails
  | send statement next ih =>
      rw [Dialogue.run] at ending
      cases replied : server state statement with
      | mk reply after =>
          rw [replied] at ending
          cases reply with
          | answer answer => exact ih answer (fails answer) ending
          | failure =>
              cases ending
              exact failed statement
          | silence =>
              cases lateness : faults.late? statement with
              | none => simp [lateness] at ending
              | some error =>
                  simp only [lateness] at ending
                  cases ending
                  exact late statement error lateness

/-- Whether the errors of a dialogue blame the caller before anything is sent, and the server
afterwards. -/
def Tells : Dialogue α → Prop
  | .done (.ok _) => True
  | .done (.error error) => error.isBackendFailure = false
  | .send _ next => ∀ answer, (next answer).FailsOnly (·.isBackendFailure = true)

/-- The error of a run of such a dialogue tells whether anything was sent. -/
theorem Tells.run {dialogue : Dialogue α} (tells : dialogue.Tells) (connection : Connection)
    (table : Table) {server : Backend State} {state : State} {error : Error}
    (ending : (dialogue.run server (connection.faults table) state).ending =
      .result (.error error)) :
    error.isBackendFailure = true ↔
      (dialogue.run server (connection.faults table) state).statements ≠ [] := by
  cases dialogue with
  | done result =>
      cases ending
      simp only [Dialogue.run, ne_eq, not_true_eq_false, iff_false, Bool.not_eq_true]
      exact tells
  | send statement next =>
      have blames : error.isBackendFailure = true := by
        have fails : (send statement next).FailsOnly (·.isBackendFailure = true) := tells
        refine fails.run (fun _ => rfl) (fun sent error late => ?_) ending
        obtain ⟨limit, -, rfl⟩ := Option.map_eq_some_iff.mp late
        rfl
      refine iff_of_true blames fun nothing => ?_
      have sent := head?_statements server (connection.faults table)
        statement next state
      rw [nothing] at sent
      cases sent

/-- Whether a dialogue is over at once with an error that blames the caller. -/
def IsTurnedDown (dialogue : Dialogue α) : Prop :=
  ∃ error, dialogue = .fail error ∧ error.isBackendFailure = false

/-- Whether a dialogue is a single statement, and an answer can only be blamed on the server. -/
def IsSingle (dialogue : Dialogue α) : Prop :=
  ∃ (statement : Statement) (finish : Answer → Except Error α),
    dialogue = .send statement (fun answer => .done (finish answer)) ∧
      ∀ answer error, finish answer = .error error → error.isBackendFailure = true

/-- Asking and finishing with what is read is one statement. -/
theorem ask_bind_done {statement : Statement} {read : Answer → Option α} {unreadable : Error}
    (finish : α → Except Error β) :
    (ask statement read unreadable).bind (fun value => .done (finish value)) =
      .send statement fun answer => .done (match read answer with
        | some value => finish value
        | none => .error unreadable) := by
  rw [ask, bind_send]
  congr 1
  funext answer
  cases read answer <;> rfl

end Server.Dialogue

namespace Operation

/-- Whether an operation is about the rows of a table. -/
def isOnRows : Operation → Bool
  | .validate _ _ => false
  | _ => true

variable (connection : Connection)

theorem carry_cases {α : Type} {dialogue : Dialogue α} (single : dialogue.IsSingle) :
    (connection.carry dialogue).IsTurnedDown ∨ (connection.carry dialogue).IsSingle := by
  unfold Connection.carry
  split
  · exact .inr single
  · exact .inl ⟨_, rfl, rfl⟩

/-- A statement of which only the number of rows is wanted. -/
theorem isSingle_affected (statement : Statement) :
    (Dialogue.send statement fun answer => .done (.ok answer.affected)).IsSingle := by
  refine ⟨statement, fun answer => .ok answer.affected, rfl, fun answer error failed => ?_⟩
  cases failed

/-- An operation on rows is turned down, is a single statement, or inserts nothing. -/
theorem dialogue_cases (operation : Operation) (onRows : operation.isOnRows = true) :
    (operation.dialogue connection).IsTurnedDown ∨ (operation.dialogue connection).IsSingle ∨
      ∃ table value, operation = .insert table [] ∧
        operation.dialogue connection = .done (.ok value) := by
  cases operation with
  | count selection =>
      refine (carry_cases connection
        ⟨_, _, Dialogue.ask_bind_done selection.countOf, ?_⟩).imp_right .inl
      intro answer error failed
      split at failed
      · unfold Selection.countOf at failed
        split at failed
        · cases failed
        · cases failed
          rfl
      · cases failed
        rfl
  | query selection =>
      refine (carry_cases connection ⟨_, _, rfl, fun answer error failed => ?_⟩).imp_right .inl
      obtain ⟨field, fault, rfl⟩ := Record.decode_of_ofRows failed
      rfl
  | delete selection => exact (carry_cases connection (isSingle_affected _)).imp_right .inl
  | update updates selection =>
      simp only [dialogue, Updates.apply]
      split
      · exact (carry_cases connection (isSingle_affected _)).imp_right .inl
      · exact .inl ⟨_, rfl, rfl⟩
  | insert table records =>
      simp only [dialogue, Table.insert]
      split
      · exact .inl ⟨_, rfl, rfl⟩
      · cases records with
        | cons record records =>
            exact (carry_cases connection (isSingle_affected _)).imp_right .inl
        | nil =>
            unfold Connection.carry
            split
            · exact .inr (.inr ⟨table, (0 : Nat), rfl, rfl⟩)
            · exact .inl ⟨_, rfl, rfl⟩
  | validate => cases onRows

/-- The errors of an operation tell whether it has sent anything. -/
theorem tells_dialogue (operation : Operation) : (operation.dialogue connection).Tells := by
  by_cases onRows : operation.isOnRows = true
  · obtain ⟨error, turnedDown, blames⟩ | ⟨statement, finish, single, blames⟩ |
      ⟨table, value, -, nothing⟩ := dialogue_cases connection operation onRows
    · rw [turnedDown]
      exact blames
    · rw [single]
      intro answer
      dsimp only
      cases made : finish answer with
      | ok value => trivial
      | error error => exact blames answer error made
    · rw [nothing]
      trivial
  · cases operation with
    | validate table action =>
        cases usable : connection.isUsable with
        | false =>
            simp only [dialogue, Table.validate, Connection.carry, usable]
            rfl
        | true =>
            have fails : (table.validate connection action).FailsOnly
                (·.isBackendFailure = true) :=
              Validation.validate_induction connection table action (fun _ => trivial)
                Dialogue.FailsOnly.bind (fun definition value answer => trivial)
                (fun _ => Dialogue.failsOnly_ask rfl) usable
            rw [dialogue]
            rw [validate_eq connection usable] at fails ⊢
            exact fails
    | _ => exact absurd rfl onRows

end Operation

/-- Whether a run ended with an error before anything was sent. -/
def Server.Run.IsRefused {State α : Type} (run : Run State α) : Prop :=
  (∃ error, run.ending = .result (.error error)) ∧ run.statements = []

namespace Operation

variable {State : Type} (server : Backend State) (connection : Connection) (state : State)

theorem isRefused_of_isTurnedDown {operation : Operation}
    (turnedDown : (operation.dialogue connection).IsTurnedDown) :
    (operation.run server connection state).IsRefused := by
  obtain ⟨error, turnedDown, -⟩ := turnedDown
  rw [run, turnedDown]
  exact ⟨⟨error, rfl⟩, rfl⟩

/-- Over a foreign connection every operation is turned down. -/
theorem isTurnedDown_of_foreign {connection : Connection} (foreign : connection.isUsable = false)
    (operation : Operation) : (operation.dialogue connection).IsTurnedDown := by
  have carried {α : Type} (dialogue : Dialogue α) :
      (connection.carry dialogue).IsTurnedDown := by
    rw [Connection.carry, foreign]
    exact ⟨_, rfl, rfl⟩
  cases operation with
  | count | query | delete | validate => exact carried _
  | update updates selection =>
      simp only [dialogue, Updates.apply]
      split
      · exact carried _
      · exact ⟨_, rfl, rfl⟩
  | insert table records =>
      simp only [dialogue, Table.insert]
      split
      · exact ⟨_, rfl, rfl⟩
      · exact carried _

theorem isTurnedDown_of_update {updates : Updates} {selection : Selection}
    (elsewhere : ¬updates.table.Same selection.table) :
    ((Operation.update updates selection).dialogue connection).IsTurnedDown := by
  rw [← Table.sameAs_iff] at elsewhere
  simp only [dialogue, Updates.apply, elsewhere]
  exact ⟨_, rfl, rfl⟩

theorem isTurnedDown_of_insert {table : Table} {records : List Record} {record : Record}
    (member : record ∈ records) (elsewhere : ¬record.table.Same table) :
    ((Operation.insert table records).dialogue connection).IsTurnedDown := by
  rw [← Table.sameAs_iff] at elsewhere
  simp only [dialogue, Table.insert]
  split
  · exact ⟨_, rfl, rfl⟩
  · rename_i own
    have same := List.find?_eq_none.mp own record member
    simp [elsewhere] at same

/-- An operation on rows sends at most one statement, and none only if it fails or has nothing to
insert. -/
theorem length_statements {operation : Operation} (onRows : operation.isOnRows = true) :
    (operation.run server connection state).statements.length ≤ 1 ∧
      ∀ value, (operation.run server connection state).ending = .result (.ok value) →
        (∀ table, operation ≠ .insert table []) →
        (operation.run server connection state).statements.length = 1 := by
  obtain turnedDown | ⟨statement, finish, single, -⟩ | ⟨table, value, empty, nothing⟩ :=
    dialogue_cases connection operation onRows
  · obtain ⟨⟨error, failed⟩, nothing⟩ := isRefused_of_isTurnedDown server connection state turnedDown
    rw [nothing, failed]
    exact ⟨Nat.zero_le 1, fun value ending => by cases ending⟩
  · have sent : (operation.run server connection state).statements = [statement] := by
      rw [run, single]
      exact statements_run_send ..
    rw [sent]
    exact ⟨le_rfl, fun _ _ _ => rfl⟩
  · rw [run, nothing]
    exact ⟨Nat.zero_le 1, fun _ _ given => absurd empty (given table)⟩

end Operation

/-- The error of an operation blames the server exactly when something was sent. Operations on rows
send at most one statement, and one when they succeed, except that inserting no records sends
nothing. Over a foreign connection, and when tables do not belong together, nothing is sent; and a
query whose statement was answered can only fail at a field. -/
theorem errors_tell_contact {State : Type} (server : Backend State) (connection : Connection)
    (state : State) :
    (∀ (operation : Operation) error,
      (operation.run server connection state).ending = .result (.error error) →
        (error.isBackendFailure = true ↔
          (operation.run server connection state).statements ≠ [])) ∧
    (∀ operation : Operation, operation.isOnRows = true →
      (operation.run server connection state).statements.length ≤ 1 ∧
        ∀ value, (operation.run server connection state).ending = .result (.ok value) →
          (∀ table, operation ≠ .insert table []) →
          (operation.run server connection state).statements.length = 1) ∧
    (∀ table, connection.isUsable = true →
      (Operation.insert table []).run server connection state =
        ⟨.result (.ok (0 : Nat)), [], state⟩) ∧
    (∀ operation : Operation, connection.isUsable = false →
      (operation.run server connection state).IsRefused) ∧
    (∀ (updates : Updates) (selection : Selection), ¬updates.table.Same selection.table →
      ((Operation.update updates selection).run server connection state).IsRefused) ∧
    (∀ table records, ∀ record ∈ records, ¬record.table.Same table →
      ((Operation.insert table records).run server connection state).IsRefused) ∧
    ∀ (selection : Selection) answer after, connection.isUsable = true →
      server state (.rows (selection.reading connection.environment)) = (.answer answer, after) →
      ((∃ records, ((Operation.query selection).run server connection state).ending =
          .result (.ok records)) ∨
        ∃ field fault, ((Operation.query selection).run server connection state).ending =
          .result (.error (.decode selection.table.qualifiedName field fault))) := by
  refine ⟨fun operation error ending =>
      (operation.tells_dialogue connection).run connection operation.table ending,
    fun operation onRows => Operation.length_statements server connection state onRows,
    fun table usable => ?_,
    fun operation foreign => Operation.isRefused_of_isTurnedDown server connection state
      (Operation.isTurnedDown_of_foreign foreign operation),
    fun updates selection elsewhere => Operation.isRefused_of_isTurnedDown server connection state
      (Operation.isTurnedDown_of_update connection elsewhere),
    fun table records record member elsewhere =>
      Operation.isRefused_of_isTurnedDown server connection state
        (Operation.isTurnedDown_of_insert connection member elsewhere),
    fun selection answer after usable answered => ?_⟩
  · simp only [Operation.run, Operation.dialogue, Table.insert, Table.foreignRecord?,
      List.find?_nil, Connection.carry, usable, Table.insertion?]
    rfl
  · have ending : ((Operation.query selection).run server connection state).ending =
        .result (Record.ofRows selection.table answer.columns answer.rows) := by
      have ends : Dialogue.Ends server (selection.query connection) state
          [.rows (selection.reading connection.environment)]
          (Record.ofRows selection.table answer.columns answer.rows) after := by
        rw [Selection.query, Connection.carry, if_pos usable]
        exact .send answered (.done ..)
      exact congrArg Run.ending ends.run_eq
    rw [ending]
    cases read : Record.ofRows selection.table answer.columns answer.rows with
    | ok records => exact .inl ⟨records, rfl⟩
    | error error =>
        obtain ⟨field, fault, rfl⟩ := Record.decode_of_ofRows read
        exact .inr ⟨field, fault, rfl⟩

/-- A record of the kinds of holds without values. -/
def blankHold : Record where
  table := School.holdType
  values := List.replicate School.holdType.fields.length none
  aligned := List.length_replicate

/-- Postal codes are deleted on a server that fails and over a foreign connection, inserted together
with a kind of hold, and queried on a server whose answer has no columns. -/
theorem zip_codes_tell_contact :
    (∃ error,
      ((Operation.delete (.all School.zipCode)).run (bareFor 0) (.usable .testing none) 0).ending =
        .result (.error error) ∧
      (error.isBackendFailure = true ↔
        ((Operation.delete (.all School.zipCode)).run (bareFor 0) (.usable .testing none)
          0).statements ≠ [])) ∧
    ((Operation.delete (.all School.zipCode)).run (bareFor 0) (.foreign .oracle .testing)
      0).IsRefused ∧
    ((Operation.insert School.zipCode [blankHold]).run (bareFor 0) (.usable .testing none)
      0).IsRefused ∧
    ((∃ records, ((Operation.query (.all School.zipCode)).run (bareFor 1) (.usable .testing none)
        0).ending = .result (.ok records)) ∨
      ∃ field fault, ((Operation.query (.all School.zipCode)).run (bareFor 1)
        (.usable .testing none) 0).ending =
          .result (.error (.decode "main.zip_code" field fault))) := by
  obtain ⟨tells, -, -, -, -, inserts, -⟩ :=
    errors_tell_contact (bareFor 0) (.usable .testing none) 0
  obtain ⟨-, -, -, -, -, -, queries⟩ := errors_tell_contact (bareFor 1) (.usable .testing none) 0
  obtain ⟨-, -, -, foreign, -⟩ := errors_tell_contact (bareFor 0) (.foreign .oracle .testing) 0
  have elsewhere : ¬blankHold.table.Same School.zipCode := fun same =>
    absurd same.name (by decide)
  exact ⟨⟨_, rfl, tells (.delete (.all School.zipCode)) _ rfl⟩, foreign _ rfl,
    inserts _ _ _ List.mem_cons_self elsewhere, queries (.all School.zipCode) _ 1 rfl rfl⟩

end TableStore
