import TableStore.Proofs.Criterion.Condition

/-!
# The constants of a condition

The condition of a criterion reads its comparands one by one where there are bounds, and all of
them in order where there is a list. A comparand that is missing would be written as a missing
value; but every criterion has as many comparands as its condition reads, so the constants of the
condition are the comparands and nothing else.
-/

namespace TableStore

open Sql

/-- The positions of the comparands that the condition of a comparison reads one by one. -/
def Comparison.positions : Comparison → List Nat
  | .greaterThan | .greaterThanOrEqual | .lessThan | .lessThanOrEqual => [0]
  | .between _ _ => [0, 1]
  | _ => []

namespace Criterion

variable (criterion : Criterion)

/-- The literals in the condition of a criterion: those of all comparands in order, except that
tests for truth values name the truth value and that prefixes are given by patterns. -/
def constants : List Literal :=
  match criterion.comparison with
  | .isTrue => [.boolean true]
  | .isFalse => [.boolean false]
  | .startsWith _ | .startsNotWith _ => []
  | _ => criterion.values.map Value.literal

/-- Whether the condition of a criterion finds every comparand that it reads, so that nothing in
it stands for a comparand that is missing. -/
structure IsComplete : Prop where
  found : ∀ index ∈ criterion.comparison.positions, ∃ value,
    criterion.values[index]? = some value ∧ criterion.comparand index = value.literal
  literals : criterion.condition.tests.flatMap Test.literals = criterion.constants
  noNull : .null ∉ criterion.condition.tests.flatMap Test.literals

/-- There are as many comparands as the condition reads. -/
theorem lt_length_of_position {index : Nat} (read : index ∈ criterion.comparison.positions) :
    index < criterion.values.length := by
  have takes := criterion.takes_comparands
  cases compares : criterion.comparison with
  | greaterThan | greaterThanOrEqual | lessThan | lessThanOrEqual =>
      rw [compares] at read takes
      rw [List.mem_singleton.mp read, eq_of_beq takes]
      exact Nat.zero_lt_one
  | between includeLower includeUpper =>
      rw [compares] at read takes
      have first : index = 0 ∨ index = 1 := by simpa [Comparison.positions] using read
      rw [eq_of_beq takes]
      omega
  | _ =>
      rw [compares] at read
      cases read

theorem exists_value_of_position {index : Nat} (read : index ∈ criterion.comparison.positions) :
    ∃ value, criterion.values[index]? = some value ∧
      criterion.comparand index = value.literal := by
  have found := List.getElem?_eq_getElem (criterion.lt_length_of_position read)
  exact ⟨_, found, criterion.comparand_eq found⟩

/-- Patterns are no literals. -/
theorem literals_beginningTests (ignoreCase negated : Bool) (values : List Value) :
    (criterion.beginningTests ignoreCase negated values).flatMap Test.literals = [] := by
  simp [beginningTests, Test.literals]

theorem literals_beginnings (ignoreCase negated : Bool)
    (compares : criterion.comparison = beginningComparison ignoreCase negated) :
    criterion.condition.tests.flatMap Test.literals = [] := by
  rw [criterion.condition_beginnings ignoreCase negated compares]
  split
  · rfl
  · cases negated <;> exact criterion.literals_beginningTests ignoreCase _ _

/-- The literals in the condition of a criterion are those of its comparands. -/
theorem literals_condition :
    criterion.condition.tests.flatMap Test.literals = criterion.constants := by
  have takes := criterion.takes_comparands
  cases compares : criterion.comparison with
  | isNull | isNotNull =>
      rw [compares] at takes
      have none := List.eq_nil_of_length_eq_zero (eq_of_beq takes)
      simp [condition, constants, compares, Condition.tests, Test.literals, none]
  | isTrue | isFalse => simp [condition, constants, compares, Condition.tests, Test.literals]
  | isIn ignoreCase | isNotIn ignoreCase =>
      simp [condition, constants, compares, Condition.tests, Test.literals, comparands_eq]
  | startsWith ignoreCase =>
      rw [criterion.literals_beginnings ignoreCase false compares]
      simp [constants, compares]
  | startsNotWith ignoreCase =>
      rw [criterion.literals_beginnings ignoreCase true compares]
      simp [constants, compares]
  | greaterThan | greaterThanOrEqual | lessThan | lessThanOrEqual =>
      rw [compares] at takes
      obtain ⟨bound, one⟩ := exists_of_length_one takes
      have first : criterion.comparand 0 = bound.literal :=
        criterion.comparand_eq (by rw [one]; rfl)
      simp [condition, constants, compares, Condition.tests, Test.literals, one, first]
  | between includeLower includeUpper =>
      rw [compares] at takes
      obtain ⟨lower, upper, two⟩ := exists_of_length_two takes
      have first : criterion.comparand 0 = lower.literal :=
        criterion.comparand_eq (by rw [two]; rfl)
      have second : criterion.comparand 1 = upper.literal :=
        criterion.comparand_eq (by rw [two]; rfl)
      cases includeLower <;> cases includeUpper <;>
        simp [condition, constants, compares, Condition.tests, Test.literals, two, first, second]

/-- No constant of a condition stands for a missing comparand. -/
theorem null_notMem_constants : .null ∉ criterion.constants := by
  have noValue : .null ∉ criterion.values.map Value.literal := by
    intro member
    rcases List.mem_map.mp member with ⟨value, _, isNull⟩
    exact value.literal_ne_null isNull
  unfold constants
  split <;> first
    | exact noValue
    | simp

theorem isComplete : criterion.IsComplete where
  found _ := criterion.exists_value_of_position
  literals := criterion.literals_condition
  noNull := criterion.literals_condition ▸ criterion.null_notMem_constants

end Criterion

end TableStore
