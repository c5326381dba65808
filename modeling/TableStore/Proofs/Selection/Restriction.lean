import TableStore.Proofs.Criterion.Condition
import TableStore.Statement.Rows

/-!
# Selections read back from their restrictions

The restriction of a selection is read as a server reads it, and what each conjunct asks of its
column is decoded at the type of the column in the table. Read in this way, the restriction of
every selection asks exactly what its criteria say, one conjunct for each criterion in order.

Since this is a function of the text, selections that say different things never share a text.
-/

namespace TableStore

open Sql

/-- What a conjunct asks of a column: a comparison with values, none of which is absent. -/
structure Requirement where
  column : String
  comparison : Comparison
  values : List Value
deriving DecidableEq

namespace Sql

/-- What a demand asks in a table, its constants read at the type of the column. -/
def Demand.requirement? (table : Table) (demand : Demand) : Option Requirement := do
  let field ← table.fieldNamed? demand.column
  let values ← demand.constants.mapM (Literal.value? field.type)
  return ⟨demand.column, demand.comparison, values⟩

/-- What a formula asks in a table. -/
def Formula.requirement? (table : Table) (formula : Formula) : Option Requirement :=
  formula.demand?.bind (Demand.requirement? table)

end Sql

/-- What a criterion says, its comparands as a server stores them. -/
def Criterion.requirement (criterion : Criterion) : Requirement :=
  ⟨criterion.field.name, criterion.comparison, criterion.values.map Value.canonical⟩

/-- A field that belongs to a table has the type of the column with its name. -/
theorem Table.fieldNamed?_of_contains {table : Table} {field : Field}
    (contained : table.contains field = true) :
    ∃ own, table.fieldNamed? field.name = some own ∧ own.type = field.type := by
  obtain ⟨own, found, agrees⟩ := (Option.any_eq_true _ _).mp contained
  simp only [Field.agrees, Bool.and_eq_true, beq_iff_eq] at agrees
  exact ⟨own, found, agrees.1.1.1.2⟩

/-- In a table that has its field, the condition of a criterion asks what the criterion says. -/
theorem Criterion.requirement?_condition {table : Table} {criterion : Criterion}
    (contained : table.contains criterion.field = true) :
    criterion.condition.formula.requirement? table = some criterion.requirement := by
  obtain ⟨own, found, sameType⟩ := table.fieldNamed?_of_contains contained
  have values : (criterion.values.map fun value => value.literal.canonical).mapM
      (Literal.value? own.type) = some (criterion.values.map Value.canonical) := by
    apply mapM_map_eq_some
    intro value member
    rw [sameType, ← (criterion.comparands_typed value member).1,
      Value.value?_literal_canonical]
  rw [Formula.requirement?, criterion.demand?_condition, Option.bind_some,
    Demand.requirement?]
  simp only [Criterion.demand, found, values, Option.bind_eq_bind, Option.bind_some, pure,
    Criterion.requirement]

namespace Selection

variable (selection : Selection)

theorem isReadable_conditions :
    ∀ condition ∈ selection.conditions, condition.IsReadable := by
  intro condition member
  obtain ⟨criterion, -, rfl⟩ := List.mem_map.mp member
  exact criterion.isReadable_condition

/-- The conjuncts that a server reads in the restriction of a selection. -/
def conjuncts : List Formula :=
  selection.conditions.map Condition.formula

theorem readAll?_whereTokens :
    readAll? readWhere (whereTokens selection.conditions) = some selection.conjuncts :=
  (reads_where selection.isReadable_conditions).readAll?

/-- Each conjunct asks what its criterion says. -/
theorem requirement?_conjuncts :
    selection.conjuncts.map (Formula.requirement? selection.table) =
      selection.criteria.map fun criterion => some criterion.requirement := by
  simp only [conjuncts, conditions, List.map_map]
  exact List.map_congr_left fun criterion member =>
    criterion.requirement?_condition (selection.bound criterion member)

theorem whereTokens_eq_nil_iff :
    whereTokens selection.conditions = [] ↔ selection.criteria = [] := by
  rw [conditions]
  cases selection.criteria <;> simp [whereTokens]

/-- What is determined by one image of an item is determined by it in a list. -/
theorem map_eq_of_map_eq {α β γ : Type} {f : α → β} {g : α → γ}
    (determined : ∀ {x y}, f x = f y → g x = g y) {first second : List α}
    (same : first.map f = second.map f) : first.map g = second.map g := by
  induction first generalizing second with
  | nil =>
      cases second with
      | nil => rfl
      | cons => simp at same
  | cons x first ih =>
      cases second with
      | nil => simp at same
      | cons y second =>
          simp only [List.map_cons, List.cons.injEq] at same ⊢
          exact ⟨determined same.1, ih same.2⟩

theorem kinds_eq_of_shapes_eq {a b : Selection}
    (same : a.criteria.map Criterion.shape = b.criteria.map Criterion.shape) :
    (whereTokens a.conditions).map Token.kind = (whereTokens b.conditions).map Token.kind := by
  apply kinds_whereTokens_eq
  rw [conditions, conditions, List.map_map, List.map_map]
  exact map_eq_of_map_eq Criterion.skeleton_condition_eq same

/-- The restriction of a selection is read to its end as one conjunct for each criterion, in
order, and each conjunct decodes to the field, the comparison and the comparands of its
criterion; there is no restriction exactly when there are no criteria. What the comparands
contain has no part in the kinds of the tokens. -/
theorem restriction_reads_back :
    ∃ tokens conjuncts,
      tokenize (whereText selection.conditions).toList = some tokens ∧
      readAll? readWhere tokens = some conjuncts ∧
      (tokens = [] ↔ selection.criteria = []) ∧
      conjuncts.length = selection.criteria.length ∧
      conjuncts.map (Formula.requirement? selection.table) =
        selection.criteria.map (fun criterion => some criterion.requirement) ∧
      ∀ other : Selection,
        other.criteria.map Criterion.shape = selection.criteria.map Criterion.shape →
        ∃ otherTokens, tokenize (whereText other.conditions).toList = some otherTokens ∧
          otherTokens.map Token.kind = tokens.map Token.kind := by
  refine ⟨_, _, spells_where selection.conditions, selection.readAll?_whereTokens,
    selection.whereTokens_eq_nil_iff, ?_, selection.requirement?_conjuncts, ?_⟩
  · rw [conjuncts, conditions, List.length_map, List.length_map]
  · intro other same
    exact ⟨_, spells_where other.conditions, kinds_eq_of_shapes_eq same⟩

end Selection

end TableStore
