import TableStore.Proofs.Selection.Restriction
import TableStore.Proofs.Sql.Meaning
import TableStore.Proofs.Table.Basic

/-!
# What conditions mean

A comparison with comparands asks something of a cell. On a row of values of the types of the
columns, a server takes the condition of every criterion, and the condition holds exactly when
the cell of the field has what the comparison asks.

Only the test for emptiness asks for an empty cell. No comparand is the null constant, which
would leave a whole membership unknown.
-/

namespace TableStore

open Sql

/-- What a comparison with comparands asks of a cell. -/
def Comparison.Asks (rules : TextRules) (values : List Value) (cell : Option Value) :
    Comparison → Prop
  | .isNull => cell = none
  | .isNotNull => ∃ value, cell = some value
  | .isTrue => cell = some (.boolean true)
  | .isFalse => cell = some (.boolean false)
  | .isIn ignoreCase => ∃ value, cell = some value ∧ ∃ comparand ∈ values,
      (rules.folded ignoreCase value).Level (rules.folded ignoreCase comparand)
  | .isNotIn ignoreCase => ∃ value, cell = some value ∧ ∀ comparand ∈ values,
      ¬(rules.folded ignoreCase value).Level (rules.folded ignoreCase comparand)
  | .startsWith ignoreCase => ∃ text, cell = some (.string text) ∧ ∃ comparand ∈ values,
      rules.matchesPattern ignoreCase comparand.pattern text = true
  | .startsNotWith ignoreCase => ∃ text, cell = some (.string text) ∧ ∀ comparand ∈ values,
      rules.matchesPattern ignoreCase comparand.pattern text = false
  | .greaterThan => ∃ value bound, cell = some value ∧ values = [bound] ∧ bound.Before value
  | .greaterThanOrEqual =>
      ∃ value bound, cell = some value ∧ values = [bound] ∧ bound.AtMost value
  | .lessThan => ∃ value bound, cell = some value ∧ values = [bound] ∧ value.Before bound
  | .lessThanOrEqual => ∃ value bound, cell = some value ∧ values = [bound] ∧ value.AtMost bound
  | .between includeLower includeUpper => ∃ value lower upper,
      cell = some value ∧ values = [lower, upper] ∧
        (if includeLower then lower.AtMost value else lower.Before value) ∧
        if includeUpper then value.AtMost upper else value.Before upper

/-- In a fitting row the cell of a field of the table has the type of the field. -/
theorem Sql.Row.Fits.typed {row : Row} {table : Table} (fits : row.Fits table) {name : String}
    {own : Field} (found : table.fieldNamed? name = some own) :
    ∀ value ∈ row name, value.type = own.type := by
  obtain ⟨member, rfl⟩ := Table.fieldNamed?_eq_some_iff.mp found
  exact fits own member

namespace Criterion

variable {rules : TextRules} {table : Table} {row : Row} (criterion : Criterion) {own : Field}

section Own

variable (found : table.fieldNamed? criterion.field.name = some own)
  (sameType : own.type = criterion.field.type)

include sameType in
theorem comparand_type {value : Value} (member : value ∈ criterion.values) :
    value.type = own.type :=
  (criterion.comparands_typed value member).1.trans sameType.symm

include found sameType in
/-- A test for a truth value asks for that value. -/
theorem means_truth (fits : row.Fits table) (boolean : criterion.field.type = .boolean)
    (expected : Bool) :
    (Condition.test (.compare criterion.field.name .equal (.boolean expected))).formula.Means
      rules table row (row criterion.field.name = some (.boolean expected)) := by
  have isBoolean : own.type = .boolean := sameType.trans boolean
  have typed := fits.typed found
  have boundTyped : (Value.boolean expected).type = own.type := isBoolean.symm
  refine (Test.Means.formula found (means_compare typed .equal boundTyped)).congr ?_
  change (∃ value, row criterion.field.name = some value ∧ value.Level (.boolean expected)) ↔ _
  constructor
  · rintro ⟨value, cell, level⟩
    have valueTyped := (typed value cell).trans isBoolean
    cases value with
    | boolean truth => rw [cell, Value.level_boolean_iff.mp level]
    | _ => contradiction
  · intro cell
    exact ⟨_, cell, Value.level_boolean_iff.mpr rfl⟩

include found in
/-- A pattern test of a prefix asks for a text that matches the pattern of the prefix. -/
theorem means_beginning (ignoreCase negated : Bool) (texts : own.type = .string) (value : Value) :
    (Formula.test (.like ignoreCase negated criterion.field.name value.pattern)).Means rules table
      row (∃ text, row criterion.field.name = some (.string text) ∧
        rules.matchesPattern ignoreCase value.pattern text = !negated) := by
  let test : Test := .like ignoreCase negated criterion.field.name value.pattern
  have named : table.fieldNamed? test.column = some own := found
  exact Test.Means.formula named (means_like ignoreCase negated value.pattern texts)

include found sameType in
/-- The condition of a comparison with beginnings asks for a text that matches the pattern of
some prefix, or if it is negated for one that matches none. -/
theorem means_beginnings (ignoreCase negated : Bool)
    (compares : criterion.comparison = beginningComparison ignoreCase negated) :
    criterion.condition.formula.Means rules table row
      ((beginningComparison ignoreCase negated).Asks rules criterion.values
        (row criterion.field.name)) := by
  have nonempty := criterion.values_ne_nil_of_beginnings compares
  have texts : own.type = .string := by
    obtain ⟨value, member⟩ := List.exists_mem_of_ne_nil _ nonempty
    rw [← criterion.comparand_type sameType member]
    exact criterion.texts_of_beginnings compares value member
  have each : ∀ value ∈ criterion.values,
      (Formula.test (.like ignoreCase negated criterion.field.name value.pattern)).Means rules
        table row (∃ text, row criterion.field.name = some (.string text) ∧
          rules.matchesPattern ignoreCase value.pattern text = !negated) := fun value _ =>
    criterion.means_beginning found ignoreCase negated texts value
  rw [criterion.condition_beginnings ignoreCase negated compares]
  split
  · rename_i value values
    rw [values] at each ⊢
    refine (each value List.mem_cons_self).congr ?_
    cases negated <;> simp [beginningComparison, Comparison.Asks]
  · cases negated with
    | false =>
        have means := (means_any each).congr exists_mem_exists_iff
        rw [beginningGroup, if_neg Bool.false_ne_true, Condition.formula, beginningTests,
          List.map_map]
        exact means
    | true =>
        have injective : Function.Injective fun text => some (Value.string text) :=
          fun _ _ same => Value.string.inj (Option.some.inj same)
        have means := (means_all each).congr (forall_mem_exists_iff injective nonempty)
        rw [beginningGroup, if_pos rfl, Condition.formula, beginningTests, List.map_map]
        exact means

include found in
/-- Two comparisons together ask for one value that has both relations. -/
theorem means_sides (fits : row.Fits table) (lowerSign upperSign : Operator) {lower upper : Value}
    (lowerTyped : lower.type = own.type) (upperTyped : upper.type = own.type) :
    (Condition.all [.compare criterion.field.name lowerSign lower.literal,
      .compare criterion.field.name upperSign upper.literal]).formula.Means rules table row
      (∃ value, row criterion.field.name = some value ∧
        lowerSign.Relates value lower ∧ upperSign.Relates value upper) := by
  let part (side : Operator × Value) : Formula :=
    .test (Test.compare criterion.field.name side.1 side.2.literal).canonical
  have each : ∀ side ∈ [(lowerSign, lower), (upperSign, upper)],
      (part side).Means rules table row
        (∃ value, row criterion.field.name = some value ∧ side.1.Relates value side.2) := by
    intro side member
    have boundTyped : side.2.type = own.type := by
      rcases List.mem_pair.mp member with rfl | rfl
      · exact lowerTyped
      · exact upperTyped
    exact Test.Means.formula found (means_compare (fits.typed found) side.1 boundTyped)
  exact (means_all each).congr (by simp [exists_and_exists_iff])

end Own

/-- On a fitting row a server takes the condition of a criterion, and it holds when the cell of
the field has what the comparison asks. -/
theorem means_condition (fits : row.Fits table)
    (contained : table.contains criterion.field = true) :
    criterion.condition.formula.Means rules table row
      (criterion.comparison.Asks rules criterion.values (row criterion.field.name)) := by
  obtain ⟨own, found, sameType⟩ := table.fieldNamed?_of_contains contained
  have typed := fits.typed found
  have takes := criterion.takes_comparands
  have suited := criterion.suited
  cases compares : criterion.comparison with
  | isNull =>
      simp only [condition, compares]
      exact Test.Means.formula found means_isNull
  | isNotNull =>
      simp only [condition, compares]
      exact Test.Means.formula found means_isNotNull
  | isTrue | isFalse =>
      rw [compares] at suited
      simp only [condition, compares]
      exact criterion.means_truth found sameType fits (eq_of_beq suited) _
  | isIn ignoreCase | isNotIn ignoreCase =>
      rw [compares] at takes suited
      have nonempty : criterion.values ≠ [] := by
        rintro none
        simp [none, Comparison.takes] at takes
      have texts : ignoreCase = true → own.type = .string := by
        rintro rfl
        exact sameType.trans (eq_of_beq suited)
      have listed : ∀ value ∈ criterion.values, value.type = own.type := fun value member =>
        criterion.comparand_type sameType member
      simp only [condition, compares, comparands_eq]
      exact (Test.Means.formula found (means_isIn typed ignoreCase _ nonempty listed texts)).congr
        (by simp [Comparison.Asks])
  | startsWith ignoreCase =>
      exact criterion.means_beginnings found sameType ignoreCase false compares
  | startsNotWith ignoreCase =>
      exact criterion.means_beginnings found sameType ignoreCase true compares
  | greaterThan | greaterThanOrEqual | lessThan | lessThanOrEqual =>
      rw [compares] at takes
      obtain ⟨bound, values⟩ := exists_of_length_one takes
      have comparand : criterion.comparand 0 = bound.literal :=
        criterion.comparand_eq (by rw [values]; rfl)
      have boundTyped : bound.type = own.type :=
        criterion.comparand_type sameType (by simp [values])
      simp only [condition, compares, comparand, values]
      exact (Test.Means.formula found (means_compare typed _ boundTyped)).congr
        (by simp [Comparison.Asks, Operator.Relates])
  | between includeLower includeUpper =>
      rw [compares] at takes
      obtain ⟨lower, upper, values⟩ := exists_of_length_two takes
      have lowerEq : criterion.comparand 0 = lower.literal :=
        criterion.comparand_eq (by rw [values]; rfl)
      have upperEq : criterion.comparand 1 = upper.literal :=
        criterion.comparand_eq (by rw [values]; rfl)
      have lowerTyped : lower.type = own.type :=
        criterion.comparand_type sameType (by simp [values])
      have upperTyped : upper.type = own.type :=
        criterion.comparand_type sameType (by simp [values])
      have sides : ∀ lowerSign upperSign : Operator,
          (Condition.all [.compare criterion.field.name lowerSign lower.literal,
            .compare criterion.field.name upperSign upper.literal]).formula.Means rules table row
            (∃ value, row criterion.field.name = some value ∧
              lowerSign.Relates value lower ∧ upperSign.Relates value upper) :=
        fun lowerSign upperSign =>
          criterion.means_sides found fits lowerSign upperSign lowerTyped upperTyped
      cases includeLower <;> cases includeUpper <;>
        simp only [condition, compares, lowerEq, upperEq, values]
      · exact (sides .greater .less).congr (by simp [Comparison.Asks, Operator.Relates])
      · exact (sides .greater .lessOrEqual).congr (by simp [Comparison.Asks, Operator.Relates])
      · exact (sides .greaterOrEqual .less).congr (by simp [Comparison.Asks, Operator.Relates])
      · exact (Test.Means.formula found (means_between typed lowerTyped upperTyped)).congr
          (by simp [Comparison.Asks])

end Criterion

end TableStore
