import TableStore.Proofs.Server.Catalog
import TableStore.Proofs.Table.Basic
import TableStore.Validation.Table

/-!
# Settling discrepancies

Settling discrepancies one after another sends the remedies of those that have one, in order,
and leaves the others. On a server that keeps a catalog, the remedies are executed on the catalog
one after another.
-/

namespace TableStore.Validation

open Server Sql

variable (table : Table) (environment : Environment) (action : Action)

/-- The statements that remove discrepancies, where the action allows one. -/
def remedies (discrepancies : List Discrepancy) : List Definition :=
  discrepancies.filterMap (·.remedy? table environment action)

/-- The discrepancies that the action leaves. -/
def leftovers (discrepancies : List Discrepancy) : List Discrepancy :=
  discrepancies.filter fun discrepancy =>
    (discrepancy.remedy? table environment action).isNone

/-- A report after discrepancies were settled. -/
def Report.settled (report : Report) (discrepancies : List Discrepancy) : Report :=
  ⟨report.remaining ++ leftovers table environment action discrepancies,
    report.executed ++ remedies table environment action discrepancies⟩

variable {table environment action}

@[simp]
theorem remedies_append (first second : List Discrepancy) :
    remedies table environment action (first ++ second) =
      remedies table environment action first ++ remedies table environment action second :=
  List.filterMap_append

@[simp]
theorem leftovers_append (first second : List Discrepancy) :
    leftovers table environment action (first ++ second) =
      leftovers table environment action first ++ leftovers table environment action second :=
  List.filter_append ..

theorem Report.settled_nil (report : Report) :
    report.settled table environment action [] = report := by
  simp [settled, leftovers, remedies]

/-- Settling some discrepancies after others settles them all. -/
theorem Report.settled_append (report : Report) (first second : List Discrepancy) :
    (report.settled table environment action first).settled table environment action second =
      report.settled table environment action (first ++ second) := by
  simp [settled]

theorem Report.settled_cons_of_remedy {discrepancy : Discrepancy} {definition : Definition}
    (remedy : discrepancy.remedy? table environment action = some definition) (report : Report)
    (rest : List Discrepancy) :
    report.settled table environment action (discrepancy :: rest) =
      (report.execute definition).settled table environment action rest := by
  simp [settled, leftovers, remedies, remedy, execute]

theorem Report.settled_cons_of_none {discrepancy : Discrepancy}
    (left : discrepancy.remedy? table environment action = none) (report : Report)
    (rest : List Discrepancy) :
    report.settled table environment action (discrepancy :: rest) =
      (report.leave discrepancy).settled table environment action rest := by
  simp [settled, leftovers, remedies, left, leave]

/-- The statement that removes a discrepancy can be read; a key is only added when it has
names. -/
theorem isReadable_of_remedy? {discrepancy : Discrepancy} {definition : Definition}
    (differs : ∀ live, discrepancy = .wrongKey live → live ≠ table.keyNames)
    (remedy : discrepancy.remedy? table environment action = some definition) :
    definition.IsReadable := by
  cases discrepancy with
  | schemaMissing =>
      obtain ⟨-, ⟨⟩⟩ := Option.ite_none_right_eq_some.mp remedy
      trivial
  | tableMissing =>
      obtain ⟨-, ⟨⟩⟩ := Option.ite_none_right_eq_some.mp remedy
      simpa [Definition.IsReadable, Table.creation] using table.fields_ne_nil
  | columnMissing field =>
      obtain ⟨-, ⟨⟩⟩ := Option.ite_none_right_eq_some.mp remedy
      trivial
  | wrongType field live =>
      obtain ⟨-, ⟨⟩⟩ := Option.ite_none_right_eq_some.mp remedy
      trivial
  | wrongNullability field =>
      obtain ⟨-, ⟨⟩⟩ := Option.ite_none_right_eq_some.mp remedy
      trivial
  | wrongKey live =>
      obtain ⟨allowed, ⟨⟩⟩ := Option.ite_none_right_eq_some.mp remedy
      have keyless : live = [] := by
        simp only [Bool.and_eq_true, List.isEmpty_iff] at allowed
        exact allowed.1
      have keyed := differs live rfl
      rw [keyless] at keyed
      exact keyed.symm

/-- Whether a server answers statements about structure in every good state and stays in good
states. -/
def Answered {State : Type} (server : Backend State) (good : State → Prop)
    (definitions : List Definition) : Prop :=
  ∀ definition ∈ definitions, ∀ state, good state → ∃ answer after,
    server state (.definition definition) = (.answer answer, after) ∧ good after

variable {State : Type} {server : Backend State} {limit : Option Duration}

/-- Settling ends when every remedy is answered; a property of the states that the answers keep
holds at the end. -/
theorem exists_ends_settleAll (limit : Option Duration) {good : State → Prop} (report : Report)
    {discrepancies : List Discrepancy} {state : State} (initially : good state)
    (answered : Answered server good (remedies table environment action discrepancies)) :
    ∃ final, good final ∧
      Dialogue.Ends server (settleAll (.usable environment limit) table action report
        discrepancies) state
        ((remedies table environment action discrepancies).map Statement.definition)
        (.ok (report.settled table environment action discrepancies)) final := by
  induction discrepancies generalizing report state with
  | nil =>
      rw [Report.settled_nil]
      exact ⟨state, initially, .done ..⟩
  | cons discrepancy rest ih =>
      rw [settleAll, settle, Connection.environment]
      cases remedy : discrepancy.remedy? table environment action with
      | none =>
          rw [Report.settled_cons_of_none remedy]
          rw [remedies, List.filterMap_cons_none remedy] at answered ⊢
          exact ih _ initially answered
      | some definition =>
          rw [Report.settled_cons_of_remedy remedy]
          rw [remedies, List.filterMap_cons_some remedy] at answered ⊢
          obtain ⟨answer, middle, replied, holds⟩ :=
            answered definition List.mem_cons_self state initially
          obtain ⟨final, holdsFinally, ends⟩ := ih (report.execute definition) holds
            fun later member => answered later (List.mem_cons_of_mem _ member)
          exact ⟨final, holdsFinally, .send replied ends⟩

/-- On a server that keeps a catalog, settling executes the remedies on the catalog. -/
theorem executed_of_ends_settleAll {view : State → Catalog} (serves : Serves server view)
    {report : Report} {discrepancies : List Discrepancy} {state final : State}
    {sent : List Statement} {result : Except Error Report}
    (differ : ∀ live, .wrongKey live ∈ discrepancies → live ≠ table.keyNames)
    (ends : Dialogue.Ends server (settleAll (.usable environment limit) table action report
      discrepancies) state sent result final) :
    result = .ok (report.settled table environment action discrepancies) ∧
      (view state).executeAll? (remedies table environment action discrepancies) =
        some (view final) := by
  induction discrepancies generalizing report state sent with
  | nil =>
      cases ends
      rw [Report.settled_nil]
      exact ⟨rfl, rfl⟩
  | cons discrepancy rest ih =>
      have differLater : ∀ live, .wrongKey live ∈ rest → live ≠ table.keyNames := fun live later =>
        differ live (List.mem_cons_of_mem _ later)
      rw [settleAll, settle, Connection.environment] at ends
      cases remedy : discrepancy.remedy? table environment action with
      | none =>
          rw [remedy] at ends
          rw [Report.settled_cons_of_none remedy, remedies, List.filterMap_cons_none remedy]
          exact ih differLater ends
      | some definition =>
          rw [remedy] at ends
          rw [Report.settled_cons_of_remedy remedy, remedies, List.filterMap_cons_some remedy]
          cases ends with
          | send answered ends =>
              obtain ⟨read, text, executed⟩ := serves.executed _ _ _ _ answered
              have readable : definition.IsReadable := isReadable_of_remedy?
                (fun live same => differ live (same ▸ List.mem_cons_self)) remedy
              rw [Statement.text, Definition.ofText?_text readable] at text
              obtain ⟨settled, restExecuted⟩ := ih differLater ends
              refine ⟨settled, ?_⟩
              rw [Catalog.executeAll?, Option.some.inj text, executed, Option.bind_some]
              exact restExecuted

end TableStore.Validation
