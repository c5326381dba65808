import TableStore.Proofs.Criterion.Meaning

/-!
# What matches say

A match on a field says what it is called after: membership and exclusion, what is above or
below a bound, and what lies in a range without the bounds that its name excludes. The matches
of texts that ignore case compare the texts made small.

The criterion of a match asks of a cell exactly what the match says, and every criterion is
built from some match.
-/

namespace TableStore

open Sql

/-- What a match for truth values says of a cell. -/
def BooleanMatch.Asks (cell : Option Value) : BooleanMatch → Prop
  | .isNull => cell = none
  | .isNotNull => cell ≠ none
  | .isTrue => cell = some (.boolean true)
  | .isFalse => cell = some (.boolean false)

/-- What a match for numbers or points in time says of a cell. -/
def OrderedMatch.Asks (values : List Value) (cell : Option Value) : OrderedMatch → Prop
  | .isNull => cell = none
  | .isNotNull => cell ≠ none
  | .exactIn => ∃ value, cell = some value ∧ ∃ comparand ∈ values, value.Level comparand
  | .exactNotIn => ∃ value, cell = some value ∧ ∀ comparand ∈ values, ¬value.Level comparand
  | .greaterThan => ∃ value bound, cell = some value ∧ values = [bound] ∧ bound.Before value
  | .greaterThanOrEqual =>
      ∃ value bound, cell = some value ∧ values = [bound] ∧ bound.AtMost value
  | .lessThan => ∃ value bound, cell = some value ∧ values = [bound] ∧ value.Before bound
  | .lessThanOrEqual => ∃ value bound, cell = some value ∧ values = [bound] ∧ value.AtMost bound
  | .betweenExcludeBounds => ∃ value lower upper,
      cell = some value ∧ values = [lower, upper] ∧ lower.Before value ∧ value.Before upper
  | .betweenExcludeLowerBound => ∃ value lower upper,
      cell = some value ∧ values = [lower, upper] ∧ lower.Before value ∧ value.AtMost upper
  | .betweenExcludeUpperBound => ∃ value lower upper,
      cell = some value ∧ values = [lower, upper] ∧ lower.AtMost value ∧ value.Before upper
  | .betweenIncludeBounds => ∃ value lower upper,
      cell = some value ∧ values = [lower, upper] ∧ lower.AtMost value ∧ value.AtMost upper

/-- What a match for texts says of a cell; a match with beginnings speaks of the patterns of
its prefixes. -/
def StringMatch.Asks (rules : TextRules) (values : List Value) (cell : Option Value) :
    StringMatch → Prop
  | .isNull => cell = none
  | .isNotNull => cell ≠ none
  | .exactIn => ∃ text, cell = some (.string text) ∧ .string text ∈ values
  | .exactNotIn => ∃ text, cell = some (.string text) ∧ .string text ∉ values
  | .caseInsensitiveIn => ∃ text, cell = some (.string text) ∧
      ∃ other, .string other ∈ values ∧ rules.lower text = rules.lower other
  | .caseInsensitiveNotIn => ∃ text, cell = some (.string text) ∧
      ∀ other, .string other ∈ values → rules.lower text ≠ rules.lower other
  | .exactStartsWith => ∃ text, cell = some (.string text) ∧
      ∃ comparand ∈ values, rules.matchesPattern false comparand.pattern text = true
  | .exactNotStartsWith => ∃ text, cell = some (.string text) ∧
      ∀ comparand ∈ values, rules.matchesPattern false comparand.pattern text = false
  | .caseInsensitiveStartsWith => ∃ text, cell = some (.string text) ∧
      ∃ comparand ∈ values, rules.matchesPattern true comparand.pattern text = true
  | .caseInsensitiveNotStartsWith => ∃ text, cell = some (.string text) ∧
      ∀ comparand ∈ values, rules.matchesPattern true comparand.pattern text = false

section Comparisons

variable {rules : TextRules} {values : List Value} {cell : Option Value}

theorem BooleanMatch.asks_comparison (matching : BooleanMatch) :
    matching.comparison.Asks rules values cell ↔ matching.Asks cell := by
  cases matching <;> simp [comparison, Comparison.Asks, Asks, Option.ne_none_iff_exists']

theorem OrderedMatch.asks_comparison (matching : OrderedMatch) :
    matching.comparison.Asks rules values cell ↔ matching.Asks values cell := by
  cases matching <;>
    simp [comparison, Comparison.Asks, Asks, TextRules.folded, Option.ne_none_iff_exists']

section Texts

variable (cellTyped : ∀ value ∈ cell, value.type = .string)
  (valuesTyped : ∀ value ∈ values, value.type = .string)

theorem Value.exists_eq_string {value : Value} (typed : value.type = .string) :
    ∃ text, value = .string text := by
  cases value with
  | string text => exact ⟨text, rfl⟩
  | _ => contradiction

include cellTyped in
theorem exists_value_iff_text {P : Value → Prop} :
    (∃ value, cell = some value ∧ P value) ↔
      ∃ text, cell = some (.string text) ∧ P (.string text) := by
  constructor
  · rintro ⟨value, found, property⟩
    obtain ⟨text, rfl⟩ := Value.exists_eq_string (cellTyped value found)
    exact ⟨text, found, property⟩
  · rintro ⟨text, found, property⟩
    exact ⟨_, found, property⟩

include valuesTyped in
theorem exists_comparand_iff_text {P : Value → Prop} :
    (∃ comparand ∈ values, P comparand) ↔ ∃ other, .string other ∈ values ∧ P (.string other) := by
  constructor
  · rintro ⟨comparand, member, property⟩
    obtain ⟨other, rfl⟩ := Value.exists_eq_string (valuesTyped comparand member)
    exact ⟨other, member, property⟩
  · rintro ⟨other, member, property⟩
    exact ⟨_, member, property⟩

include valuesTyped in
theorem forall_comparand_iff_text {P : Value → Prop} :
    (∀ comparand ∈ values, P comparand) ↔ ∀ other, .string other ∈ values → P (.string other) := by
  constructor
  · exact fun every other member => every _ member
  · intro every comparand member
    obtain ⟨other, rfl⟩ := Value.exists_eq_string (valuesTyped comparand member)
    exact every other member

end Texts

/-- The comparison of a match for texts says the same of texts as the match. -/
theorem StringMatch.asks_comparison (matching : StringMatch)
    (cellTyped : ∀ value ∈ cell, value.type = .string)
    (valuesTyped : ∀ value ∈ values, value.type = .string) :
    matching.comparison.Asks rules values cell ↔ matching.Asks rules values cell := by
  cases matching with
  | exactIn | caseInsensitiveIn =>
      simp only [comparison, Comparison.Asks, Asks, exists_value_iff_text cellTyped,
        exists_comparand_iff_text valuesTyped, TextRules.folded, TextRules.lowerValue, if_true,
        Bool.false_eq_true, if_false, Value.level_string_iff, exists_eq_right']
  | exactNotIn =>
      simp only [comparison, Comparison.Asks, Asks, exists_value_iff_text cellTyped,
        forall_comparand_iff_text valuesTyped, TextRules.folded, Bool.false_eq_true, if_false,
        Value.level_string_iff]
      refine exists_congr fun text => and_congr_right fun _ => ?_
      exact ⟨fun apart member => apart text member rfl,
        fun missing other member same => missing (same ▸ member)⟩
  | caseInsensitiveNotIn =>
      simp only [comparison, Comparison.Asks, Asks, exists_value_iff_text cellTyped,
        forall_comparand_iff_text valuesTyped, TextRules.folded, TextRules.lowerValue, if_true,
        Value.level_string_iff, ne_eq]
  | _ => simp [comparison, Comparison.Asks, Asks, Option.ne_none_iff_exists']

end Comparisons

/-- A match on a field with its comparands, from which a criterion can be built. -/
inductive Match where
  | isNull (field : Field)
  | isNotNull (field : Field)
  | boolean (field : Field) (matching : BooleanMatch)
  | numeric (field : Field) (matching : OrderedMatch) (values : List Value)
  | temporal (field : Field) (matching : OrderedMatch) (values : List Value)
  | string (field : Field) (matching : StringMatch) (values : List Value)

namespace Match

/-- The field of a match. -/
def field : Match → Field
  | .isNull field | .isNotNull field | .boolean field _ | .numeric field _ _
  | .temporal field _ _ | .string field _ _ => field

/-- The criterion that is built from a match, or the first reason against it. -/
def criterion : Match → Except Error Criterion
  | .isNull field => .ok (.isNull field)
  | .isNotNull field => .ok (.isNotNull field)
  | .boolean field matching => Criterion.boolean field matching
  | .numeric field matching values => Criterion.numeric field matching values
  | .temporal field matching values => Criterion.temporal field matching values
  | .string field matching values => Criterion.string field matching values

/-- The comparison that a match names. -/
def comparison : Match → Comparison
  | .isNull _ => .isNull
  | .isNotNull _ => .isNotNull
  | .boolean _ matching => matching.comparison
  | .numeric _ matching _ | .temporal _ matching _ => matching.comparison
  | .string _ matching _ => matching.comparison

/-- The comparands of a match. -/
def values : Match → List Value
  | .isNull _ | .isNotNull _ | .boolean _ _ => []
  | .numeric _ _ values | .temporal _ _ values | .string _ _ values => values

/-- Whether the field of a match belongs to the family that the match is for. -/
def isOfFamily : Match → Bool
  | .isNull _ | .isNotNull _ => true
  | .boolean field _ => Family.boolean.admits field.type
  | .numeric field _ _ => Family.numeric.admits field.type
  | .temporal field _ _ => Family.temporal.admits field.type
  | .string field _ _ => Family.string.admits field.type

/-- The criteria of a match are those with its field, its comparison and its comparands. -/
theorem criterion_eq_ok_iff (m : Match) {criterion : Criterion} :
    m.criterion = .ok criterion ↔ m.isOfFamily = true ∧ criterion.field = m.field ∧
      criterion.comparison = m.comparison ∧ criterion.values = m.values := by
  cases m with
  | isNull field =>
      have given := @Criterion.check_eq_ok_iff field .isNull [] rfl criterion
      exact given.trans (and_iff_right rfl).symm
  | isNotNull field =>
      have given := @Criterion.check_eq_ok_iff field .isNotNull [] rfl criterion
      exact given.trans (and_iff_right rfl).symm
  | boolean field matching =>
      simp only [Match.criterion, Criterion.boolean, isOfFamily, Match.field, comparison, values]
      split <;> simp [Criterion.check_eq_ok_iff, *]
  | numeric field matching values =>
      simp only [Match.criterion, Criterion.numeric, isOfFamily, Match.field, comparison,
        Match.values]
      split <;> simp [Criterion.check_eq_ok_iff, *]
  | temporal field matching values =>
      simp only [Match.criterion, Criterion.temporal, isOfFamily, Match.field, comparison,
        Match.values]
      split <;> simp [Criterion.check_eq_ok_iff, *]
  | string field matching values =>
      simp only [Match.criterion, Criterion.string, isOfFamily, Match.field, comparison,
        Match.values]
      split <;> simp [Criterion.check_eq_ok_iff, *]

/-- Whether a criterion is the one that is built from a match. -/
def Builds (m : Match) (criterion : Criterion) : Prop :=
  m.criterion = .ok criterion

/-- What a match says of a row. -/
def Holds (rules : TextRules) (row : Row) : Match → Prop
  | .isNull field => row field.name = none
  | .isNotNull field => row field.name ≠ none
  | .boolean field matching => matching.Asks (row field.name)
  | .numeric field matching values | .temporal field matching values =>
      matching.Asks values (row field.name)
  | .string field matching values => matching.Asks rules values (row field.name)

/-- The criterion of a match asks of the cell of its field what the match says of the row. -/
theorem Builds.asks_iff {rules : TextRules} {row : Row} {m : Match} {criterion : Criterion}
    (builds : m.Builds criterion)
    (typed : ∀ value ∈ row criterion.field.name, value.type = criterion.field.type) :
    criterion.comparison.Asks rules criterion.values (row criterion.field.name) ↔
      m.Holds rules row := by
  obtain ⟨family, sameField, sameComparison, sameValues⟩ := m.criterion_eq_ok_iff.mp builds
  have valuesTyped := fun value member => (criterion.comparands_typed value member).1
  rw [sameField] at typed valuesTyped ⊢
  rw [sameValues] at valuesTyped ⊢
  rw [sameComparison]
  cases m with
  | isNull field => exact Iff.rfl
  | isNotNull field => exact Option.ne_none_iff_exists'.symm
  | boolean field matching => exact matching.asks_comparison
  | numeric field matching values | temporal field matching values =>
      exact matching.asks_comparison
  | string field matching values =>
      have isText : field.type = .string := eq_of_beq family
      exact matching.asks_comparison (fun value found => (typed value found).trans isText)
        fun value member => (valuesTyped value member).trans isText

end Match

namespace Criterion

variable (criterion : Criterion)

theorem exists_match_of_ordered (matching : OrderedMatch)
    (compares : criterion.comparison = matching.comparison)
    (member : (criterion.field.type.isNumeric || criterion.field.type.isTemporal) = true) :
    ∃ m : Match, m.Builds criterion := by
  rcases Bool.or_eq_true_iff.mp member with numeric | temporal
  · exact ⟨.numeric criterion.field matching criterion.values,
      (Match.criterion_eq_ok_iff _).mpr ⟨numeric, rfl, compares, rfl⟩⟩
  · exact ⟨.temporal criterion.field matching criterion.values,
      (Match.criterion_eq_ok_iff _).mpr ⟨temporal, rfl, compares, rfl⟩⟩

theorem exists_match_of_string (matching : StringMatch)
    (compares : criterion.comparison = matching.comparison)
    (isText : (criterion.field.type == .string) = true) : ∃ m : Match, m.Builds criterion :=
  ⟨.string criterion.field matching criterion.values,
    (Match.criterion_eq_ok_iff _).mpr ⟨isText, rfl, compares, rfl⟩⟩

theorem exists_match_of_boolean (matching : BooleanMatch)
    (compares : criterion.comparison = matching.comparison)
    (isBoolean : (criterion.field.type == .boolean) = true)
    (none : criterion.values = []) : ∃ m : Match, m.Builds criterion :=
  ⟨.boolean criterion.field matching,
    (Match.criterion_eq_ok_iff _).mpr ⟨isBoolean, rfl, compares, none⟩⟩

/-- A membership without regard to case is one of texts; every other one is of any type whose
values are ordered. -/
theorem exists_match_of_membership (ordered : OrderedMatch) (string : StringMatch)
    (compares : criterion.comparison = ordered.comparison)
    (alike : ordered.comparison = string.comparison)
    (member : (criterion.field.type.isNumeric || criterion.field.type.isTemporal ||
      criterion.field.type == .string) = true) : ∃ m : Match, m.Builds criterion := by
  rcases Bool.or_eq_true_iff.mp member with inOrder | isText
  · exact criterion.exists_match_of_ordered ordered compares inOrder
  · exact criterion.exists_match_of_string string (compares.trans alike) isText

/-- Every criterion is built from some match. -/
theorem exists_match : ∃ m : Match, m.Builds criterion := by
  have takes := criterion.takes_comparands
  -- Taken apart, the criterion suits its field by the very case of its comparison.
  obtain ⟨field, comparison, values, suited, accepted⟩ := criterion
  cases comparison with
  | isNull =>
      have none := List.eq_nil_of_length_eq_zero (eq_of_beq takes)
      exact ⟨.isNull field, (Match.criterion_eq_ok_iff _).mpr ⟨rfl, rfl, rfl, none⟩⟩
  | isNotNull =>
      have none := List.eq_nil_of_length_eq_zero (eq_of_beq takes)
      exact ⟨.isNotNull field, (Match.criterion_eq_ok_iff _).mpr ⟨rfl, rfl, rfl, none⟩⟩
  | isTrue =>
      have none := List.eq_nil_of_length_eq_zero (eq_of_beq takes)
      exact exists_match_of_boolean _ .isTrue rfl suited none
  | isFalse =>
      have none := List.eq_nil_of_length_eq_zero (eq_of_beq takes)
      exact exists_match_of_boolean _ .isFalse rfl suited none
  | isIn ignoreCase =>
      cases ignoreCase with
      | false => exact exists_match_of_membership _ .exactIn .exactIn rfl rfl suited
      | true => exact exists_match_of_string _ .caseInsensitiveIn rfl suited
  | isNotIn ignoreCase =>
      cases ignoreCase with
      | false => exact exists_match_of_membership _ .exactNotIn .exactNotIn rfl rfl suited
      | true => exact exists_match_of_string _ .caseInsensitiveNotIn rfl suited
  | startsWith ignoreCase =>
      cases ignoreCase with
      | false => exact exists_match_of_string _ .exactStartsWith rfl suited
      | true => exact exists_match_of_string _ .caseInsensitiveStartsWith rfl suited
  | startsNotWith ignoreCase =>
      cases ignoreCase with
      | false => exact exists_match_of_string _ .exactNotStartsWith rfl suited
      | true => exact exists_match_of_string _ .caseInsensitiveNotStartsWith rfl suited
  | greaterThan => exact exists_match_of_ordered _ .greaterThan rfl suited
  | greaterThanOrEqual => exact exists_match_of_ordered _ .greaterThanOrEqual rfl suited
  | lessThan => exact exists_match_of_ordered _ .lessThan rfl suited
  | lessThanOrEqual => exact exists_match_of_ordered _ .lessThanOrEqual rfl suited
  | between includeLower includeUpper =>
      cases includeLower <;> cases includeUpper
      · exact exists_match_of_ordered _ .betweenExcludeBounds rfl suited
      · exact exists_match_of_ordered _ .betweenExcludeLowerBound rfl suited
      · exact exists_match_of_ordered _ .betweenExcludeUpperBound rfl suited
      · exact exists_match_of_ordered _ .betweenIncludeBounds rfl suited

end Criterion

end TableStore
