import TableStore.Proofs.Validation.Check
import TableStore.School.Reference

/-!
# Every discrepancy is accounted for

A server is steady when it gives the same replies about a table in every state and answers every
statement about structure. A validation by any action then finds the same discrepancies, and each
of them is either reported or removed: which of the two depends on the action and the discrepancy
alone.

So the reported and the removed ones always add up to the same number, and an action that may do
more reports some of what the others report, in the same order.
-/

namespace TableStore.Validation

open Server Sql

/-- Whether an action reports a discrepancy instead of removing it. A key that is there is always
reported. -/
def Action.leaves : Action → Discrepancy → Bool
  | .checkOnly, _ => true
  | .buildIfMissing, .schemaMissing | .buildIfMissing, .tableMissing
  | .buildIfMissing, .columnMissing _ => false
  | .buildIfMissing, _ => true
  | .buildOrRepairIfInvalid, .wrongKey live => !live.isEmpty
  | .buildOrRepairIfInvalid, _ => false

/-- The statement that removes a discrepancy. -/
def Discrepancy.cure (table : Table) (environment : Environment) : Discrepancy → Definition
  | .schemaMissing => table.schemaCreation environment
  | .tableMissing => table.creation environment
  | .columnMissing field => table.columnAddition field environment
  | .wrongType field _ => table.typeAlteration field environment
  | .wrongNullability field => table.nullabilityAlteration field environment
  | .wrongKey _ => table.keyAddition environment

section Discrepancies

variable (table : Table) (environment : Environment) (action : Action)

/-- A discrepancy has a remedy exactly when it is not left, and that is its cure. -/
theorem remedy?_eq (discrepancy : Discrepancy) :
    discrepancy.remedy? table environment action =
      if action.leaves discrepancy then none else some (discrepancy.cure table environment) := by
  cases action <;> cases discrepancy <;> try rfl
  case checkOnly.wrongKey live => simp [Discrepancy.remedy?, Action.repairs, Action.leaves]
  case buildIfMissing.wrongKey live => simp [Discrepancy.remedy?, Action.repairs, Action.leaves]
  case buildOrRepairIfInvalid.wrongKey live =>
    cases live <;> rfl

theorem leftovers_eq (discrepancies : List Discrepancy) :
    leftovers table environment action discrepancies = discrepancies.filter action.leaves := by
  refine List.filter_congr fun discrepancy _ => ?_
  rw [remedy?_eq]
  cases action.leaves discrepancy <;> rfl

theorem remedies_eq (discrepancies : List Discrepancy) :
    remedies table environment action discrepancies =
      (discrepancies.filter fun discrepancy => !action.leaves discrepancy).map
        (·.cure table environment) := by
  induction discrepancies with
  | nil => rfl
  | cons discrepancy rest ih =>
      have remedy := remedy?_eq table environment action discrepancy
      cases left : action.leaves discrepancy with
      | true =>
          rw [left, if_pos rfl] at remedy
          rw [remedies, List.filterMap_cons_none remedy, List.filter_cons_of_neg (by simp [left])]
          exact ih
      | false =>
          rw [left, if_neg Bool.false_ne_true] at remedy
          rw [remedies, List.filterMap_cons_some remedy, List.filter_cons_of_pos (by simp [left]),
            List.map_cons]
          exact congrArg (_ :: ·) ih

end Discrepancies

/-- What a validation that may repair reports, one that may only build reports too. -/
theorem Action.leaves_buildIfMissing {discrepancy : Discrepancy}
    (left : Action.buildOrRepairIfInvalid.leaves discrepancy = true) :
    Action.buildIfMissing.leaves discrepancy = true := by
  cases discrepancy with
  | wrongKey live => rfl
  | _ => cases left

namespace Replies

/-- Whether a server gives the replies about a table in every state and answers every statement
about structure. -/
structure Steady {State : Type} (replies : Replies) (server : Backend State) (name : TableName) :
    Prop where
  given : replies.Given server name fun _ => True
  answered : ∀ definition state, ∃ answer after,
    server state (.definition definition) = (.answer answer, after)

variable {replies : Replies} {table : Table} {environment : Environment} {action : Action}

/-- The statements that are no questions are the remedies. -/
theorem filter_statements :
    (replies.statements table environment action).filter (!·.isCatalogQuery) =
      (remedies table environment action (replies.discrepancies table)).map .definition := by
  have kept : ∀ definitions : List Definition,
      (definitions.map Statement.definition).filter (!·.isCatalogQuery) =
        definitions.map .definition := by
    intro definitions
    refine List.filter_eq_self.mpr fun statement member => ?_
    obtain ⟨definition, -, rfl⟩ := List.mem_map.mp member
    rfl
  have asked : ∀ query, (!(Statement.catalog query).isCatalogQuery) = false := fun _ => rfl
  unfold statements discrepancies
  cases present : replies.isPresent <;> cases there : replies.schemaThere <;>
    simp [kept, asked]

/-- A server that gives the replies and answers everything else. -/
def steadyServer (replies : Replies) : Backend Unit := fun _ statement =>
  match statement with
  | .catalog query => (.answer ⟨[], replies.rows query, 0⟩, ())
  | _ => (.answer {}, ())

theorem steady_steadyServer (replies : Replies) (name : TableName) :
    replies.Steady replies.steadyServer name where
  given _ _ _ _ := ⟨_, _, rfl, rfl, trivial⟩
  answered _ _ := ⟨_, _, rfl⟩

end Replies

/-- What is reported and what is removed make up all that is found. -/
theorem length_errors_add_length_actionsTaken (table : Table) (environment : Environment)
    (action : Action) (present : Bool) (found : List Discrepancy) :
    let result := ((Report.settled table environment action {} found).finish table environment
      present).result
    result.errors.length + result.actionsTaken.length = found.length := by
  simp only [Report.settled, Report.finish, leftovers_eq, remedies_eq, List.nil_append,
    List.length_map]
  exact (List.length_eq_length_filter_add _).symm

/-- On a steady server a validation by any action comes to an outcome, from whatever state. Each
condition that fails is found once and, as the action and the discrepancy say, either reported or
removed by a statement that is sent; nothing else is reported or sent but questions. So as many are
reported and removed together as are found, whatever the action. What a repair reports a build
reports in the same order, and what a build reports a check does. -/
theorem every_discrepancy_is_accounted_for {State : Type} {server : Backend State}
    {replies : Replies} {table : Table} {environment : Environment}
    (steady : replies.Steady server (table.physical environment)) (limit : Option Duration)
    (faults : Faults) :
    ∃ (found : List Discrepancy) (outcome : Action → TableStatus),
      found.Nodup ∧ (∀ discrepancy, discrepancy ∈ found ↔ replies.Fails table discrepancy) ∧
      (∀ action state, ∃ sent final,
        (table.validate (.usable environment limit) action).run server faults state =
          ⟨.result (.ok (outcome action)), sent, final⟩ ∧
        (sent.filter (!·.isCatalogQuery)).map Statement.text =
          (outcome action).result.actionsTaken) ∧
      (∀ action,
        (outcome action).result.errors =
          (found.filter action.leaves).map (·.message table environment) ∧
        (outcome action).result.actionsTaken =
          (found.filter fun discrepancy => !action.leaves discrepancy).map
            fun discrepancy => (discrepancy.cure table environment).text) ∧
      (∀ action, (outcome action).result.errors.length +
        (outcome action).result.actionsTaken.length = found.length) ∧
      (outcome .buildOrRepairIfInvalid).result.errors.Sublist
        (outcome .buildIfMissing).result.errors ∧
      (outcome .buildIfMissing).result.errors.Sublist (outcome .checkOnly).result.errors := by
  let found := replies.discrepancies table
  let outcome (action : Action) : TableStatus :=
    (Report.settled table environment action {} found).finish table environment replies.isPresent
  have errors : ∀ action, (outcome action).result.errors =
      (found.filter action.leaves).map (·.message table environment) := by
    intro action
    simp only [outcome, Report.settled, Report.finish, leftovers_eq, List.nil_append]
  have taken : ∀ action, (outcome action).result.actionsTaken =
      (found.filter fun discrepancy => !action.leaves discrepancy).map
        fun discrepancy => (discrepancy.cure table environment).text := by
    intro action
    simp only [outcome, Report.settled, Report.finish, remedies_eq, List.nil_append,
      List.map_map, Function.comp_def]
  have fewer : ∀ less more : Action, (∀ discrepancy, less.leaves discrepancy = true →
      more.leaves discrepancy = true) →
      (outcome less).result.errors.Sublist (outcome more).result.errors := by
    intro less more implies
    rw [errors, errors]
    exact (List.monotone_filter_right found implies).map _
  refine ⟨found, outcome, ?_, fun _ => Replies.mem_discrepancies_iff, ?_,
    fun action => ⟨errors action, taken action⟩, ?_, ?_, ?_⟩
  · refine Replies.pairwise_discrepancies.imp fun before same => ?_
    rw [same] at before
    exact Nat.lt_irrefl _ before
  · intro action state
    have answered : Answered server (fun _ => True)
        (remedies table environment action found) := by
      intro definition _ before _
      obtain ⟨answer, after, replied⟩ := steady.answered definition before
      exact ⟨answer, after, replied, trivial⟩
    obtain ⟨final, -, ends⟩ : ∃ final, True ∧
        Dialogue.Ends server (table.validate (.usable environment limit) action) state
          (replies.statements table environment action) (.ok (outcome action)) final :=
      exists_ends_validate limit steady.given trivial answered
    refine ⟨_, final, ends.run_eq, ?_⟩
    rw [Replies.filter_statements, List.map_map]
    simp only [outcome, Report.settled, Report.finish, List.nil_append]
    rfl
  · exact fun action =>
      length_errors_add_length_actionsTaken table environment action replies.isPresent found
  · exact fewer _ _ fun _ => Action.leaves_buildIfMissing
  · exact fewer _ _ fun _ _ => rfl

/-- Replies about postal codes with a key that is not the declared one, a field without a column, a
column of another type and columns that may be empty. -/
def conflictingReplies : Replies where
  schemaThere := true
  tableThere := true
  columns := [("city", "integer", "YES"), ("zip_code", "varchar", "YES")]
  key := ["city"]

/-- Five discrepancies are found, whatever the action. A check reports them all, a build removes one
and reports four, and a repair removes four and reports the key. -/
theorem five_discrepancies_accounted_for :
    conflictingReplies.Steady conflictingReplies.steadyServer
        (School.zipCode.physical .production) ∧
      ∃ (found : List Discrepancy) (outcome : Action → TableStatus),
        found.Nodup ∧ found.length = 5 ∧
        (outcome .checkOnly).result.errors.length = 5 ∧
        (outcome .checkOnly).result.actionsTaken.length = 0 ∧
        (outcome .buildIfMissing).result.errors.length = 4 ∧
        (outcome .buildIfMissing).result.actionsTaken.length = 1 ∧
        (outcome .buildOrRepairIfInvalid).result.errors.length = 1 ∧
        (outcome .buildOrRepairIfInvalid).result.actionsTaken.length = 4 := by
  have steady := conflictingReplies.steady_steadyServer (School.zipCode.physical .production)
  have faults := Connection.faults (.usable .production none) School.zipCode
  obtain ⟨found, outcome, nodup, -, runs, -, sums, -⟩ :=
    every_discrepancy_is_accounted_for steady none faults
  have counted : ∀ action errors actions, (∃ status,
      ((School.zipCode.validate (.usable .production none) action).run
        conflictingReplies.steadyServer faults ()).ending = .result (.ok status) ∧
      status.result.errors.length = errors ∧ status.result.actionsTaken.length = actions) →
      (outcome action).result.errors.length = errors ∧
        (outcome action).result.actionsTaken.length = actions := by
    rintro action errors actions ⟨status, ending, lengths⟩
    obtain ⟨sent, final, run, -⟩ := runs action ()
    rw [run] at ending
    cases ending
    exact lengths
  have checked := counted .checkOnly 5 0 ⟨_, rfl, rfl, rfl⟩
  have built := counted .buildIfMissing 4 1 ⟨_, rfl, rfl, rfl⟩
  have repaired := counted .buildOrRepairIfInvalid 1 4 ⟨_, rfl, rfl, rfl⟩
  have all : found.length = 5 := by rw [← sums .checkOnly, checked.1, checked.2]
  exact ⟨steady, found, outcome, nodup, all, checked.1, checked.2, built.1, built.2, repaired.1,
    repaired.2⟩

end TableStore.Validation
