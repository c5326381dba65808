import TableStore.Proofs.Sql.Skeleton
import TableStore.Proofs.Value.Literal

/-!
# Criteria read back from their conditions

What a formula asks of a column is read off its tests: the two sides of a range without both
bounds belong together, and so do the prefixes of a list, each of which is a pattern that is
nothing but an escaped text and a final mark.

The condition of a criterion asks exactly what the criterion says. Its tokens show nothing of
the comparands but their type and their number.
-/

namespace TableStore

open Sql

namespace Sql

/-- The text that all matches of a pattern begin with, if the pattern asks nothing else. -/
def beginningOf? : List Char → Option (List Char)
  | [] => none
  | '\\' :: [] => none
  | '\\' :: c :: rest => (beginningOf? rest).map (c :: ·)
  | c :: rest =>
      if c = '%' ∧ rest = [] then some []
      else if isPatternMark c then none
      else (beginningOf? rest).map (c :: ·)

/-- The pattern of a beginning asks for that beginning and nothing else. -/
theorem beginningOf?_beginningWith (text : List Char) :
    beginningOf? (beginningWith text) = some text := by
  induction text with
  | nil => rfl
  | cons c text ih =>
      unfold beginningWith at ih ⊢
      by_cases mark : isPatternMark c = true
      · rw [List.flatMap_cons, if_pos mark]
        simp only [List.cons_append, List.nil_append, beginningOf?, ih, Option.map_some]
      · have noBackslash : c ≠ '\\' := by
          rintro rfl
          exact mark rfl
        have noPercent : c ≠ '%' := by
          rintro rfl
          exact mark rfl
        rw [List.flatMap_cons, if_neg mark]
        simp [beginningOf?, noBackslash, noPercent, mark, ih]

/-- What a formula asks of one column: a comparison with constants. -/
structure Demand where
  column : String
  comparison : Comparison
  constants : List Literal
deriving DecidableEq

/-- What a single test asks. -/
def Test.demand? : Test → Option Demand
  | .isNull column => some ⟨column, .isNull, []⟩
  | .isNotNull column => some ⟨column, .isNotNull, []⟩
  | .compare column .equal (.boolean true) => some ⟨column, .isTrue, []⟩
  | .compare column .equal (.boolean false) => some ⟨column, .isFalse, []⟩
  | .compare _ .equal _ => none
  | .compare column .greater literal => some ⟨column, .greaterThan, [literal]⟩
  | .compare column .greaterOrEqual literal => some ⟨column, .greaterThanOrEqual, [literal]⟩
  | .compare column .less literal => some ⟨column, .lessThan, [literal]⟩
  | .compare column .lessOrEqual literal => some ⟨column, .lessThanOrEqual, [literal]⟩
  | .between column lower upper => some ⟨column, .between true true, [lower, upper]⟩
  | .isIn ignoreCase negated column literals =>
      some ⟨column, if negated then .isNotIn ignoreCase else .isIn ignoreCase, literals⟩
  | .like ignoreCase negated column pattern =>
      (beginningOf? pattern.toList).map fun text =>
        ⟨column, if negated then .startsNotWith ignoreCase else .startsWith ignoreCase,
          [.string (String.ofList text)]⟩

/-- Whether a comparison is one with a beginning, negated or not. -/
def asksBeginning (negated : Bool) : Comparison → Bool
  | .startsWith _ => !negated
  | .startsNotWith _ => negated
  | _ => false

/-- What beginnings ask together that are asked of one column in one way. -/
def mergeBeginnings? (negated : Bool) : List Demand → Option Demand
  | [] => none
  | first :: rest =>
      if asksBeginning negated first.comparison ∧
        ∀ demand ∈ rest, demand.column = first.column ∧ demand.comparison = first.comparison
      then some ⟨first.column, first.comparison, (first :: rest).flatMap Demand.constants⟩
      else none

/-- What the two sides of a range ask together. -/
def mergeBounds? (lower upper : Demand) : Option Demand :=
  if lower.column = upper.column ∧
    lower.comparison ∈ [.greaterThan, .greaterThanOrEqual] ∧
    upper.comparison ∈ [.lessThan, .lessThanOrEqual]
  then
    some ⟨lower.column, .between (lower.comparison = .greaterThanOrEqual)
      (upper.comparison = .lessThanOrEqual), lower.constants ++ upper.constants⟩
  else none

/-- What the tests of a conjunction ask together. -/
def mergeAll? : List Demand → Option Demand
  | [lower, upper] => (mergeBounds? lower upper).or (mergeBeginnings? true [lower, upper])
  | demands => mergeBeginnings? true demands

/-- What a formula asks that is a single test. -/
def Formula.testDemand? : Formula → Option Demand
  | .test single => single.demand?
  | _ => none

/-- What a formula asks. -/
def Formula.demand? : Formula → Option Demand
  | .test single => single.demand?
  | .all parts => (parts.mapM testDemand?).bind mergeAll?
  | .any parts => (parts.mapM testDemand?).bind (mergeBeginnings? false)

end Sql

/-- The skeleton of the constants of a type. -/
def ValueType.sample : ValueType → Literal
  | .string => .string ""
  | .boolean => .boolean true
  | .byte | .integer | .long => .integer 0
  | .float => .real (.nan .single)
  | .double => .double (.nan .double)
  | .blob => .bytes []
  | .localDate => .date Sql.sampleDate
  | .localTime => .time Sql.sampleTime
  | .localDateTime => .timestamp Sql.sampleDate Sql.sampleTime

theorem Value.skeleton_literal (value : Value) (notBoolean : value.type ≠ .boolean) :
    value.literal.skeleton = value.type.sample := by
  cases value with
  | boolean => contradiction
  | _ => rfl

namespace Criterion

variable (criterion : Criterion)

/-- Every comparand has the type of the field and can be stored. -/
theorem comparands_typed : ∀ value ∈ criterion.values,
    value.type = criterion.field.type ∧ value.storageIssue? = none := by
  have accepted := criterion.accepted
  rw [error?, Option.or_eq_none_iff] at accepted
  intro value member
  exact (criterion.field.typeError?_eq_none_iff value).mp
    (List.findSome?_eq_none_iff.mp accepted.1 value member)

/-- The number of comparands suits the comparison. -/
theorem takes_comparands : criterion.comparison.takes criterion.values.length = true := by
  have accepted := criterion.accepted
  rw [error?, Option.or_eq_none_iff, Option.or_eq_none_iff] at accepted
  by_contra wrong
  have counted := accepted.2.1
  rw [countError?, if_neg wrong] at counted
  contradiction

theorem comparands_eq : criterion.comparands = criterion.values.map Value.literal := by
  apply List.map_congr_left
  intro value member
  exact if_pos (criterion.comparands_typed value member).1

/-- The comparison with beginnings, negated or not. -/
def beginningComparison (ignoreCase negated : Bool) : Comparison :=
  if negated then .startsNotWith ignoreCase else .startsWith ignoreCase

/-- The demand of one beginning. -/
def beginningDemand (column : String) (ignoreCase negated : Bool) (value : Value) : Demand :=
  ⟨column, beginningComparison ignoreCase negated, [value.literal.canonical]⟩

theorem demand?_like {value : Value} (column : String) (ignoreCase negated : Bool)
    (isText : value.type = .string) :
    (Test.like ignoreCase negated column value.pattern).demand? =
      some (beginningDemand column ignoreCase negated value) := by
  cases value with
  | string text =>
      simp [Test.demand?, Value.pattern, Value.asString?,
        beginningOf?_beginningWith, beginningDemand, beginningComparison, Value.literal,
        Literal.canonical]
  | _ => contradiction

theorem mergeBeginnings?_map (column : String) (ignoreCase negated : Bool) {values : List Value}
    (nonempty : values ≠ []) :
    mergeBeginnings? negated (values.map (beginningDemand column ignoreCase negated)) =
      some ⟨column, beginningComparison ignoreCase negated,
        values.map fun value => value.literal.canonical⟩ := by
  cases values with
  | nil => contradiction
  | cons value values =>
      have asks : asksBeginning negated (beginningComparison ignoreCase negated) = true := by
        cases negated <;> rfl
      have same : ∀ demand ∈ values.map (beginningDemand column ignoreCase negated),
          demand.column = column ∧
            demand.comparison = beginningComparison ignoreCase negated := by
        intro demand member
        obtain ⟨_, _, rfl⟩ := List.mem_map.mp member
        exact ⟨rfl, rfl⟩
      rw [List.map_cons, mergeBeginnings?, if_pos ⟨asks, same⟩]
      simp only [← List.map_cons, List.flatMap_map]
      rw [List.map_eq_flatMap]
      rfl

theorem mergeAll?_map (column : String) (ignoreCase : Bool) {values : List Value}
    (nonempty : values ≠ []) :
    mergeAll? (values.map (beginningDemand column ignoreCase true)) =
      some ⟨column, .startsNotWith ignoreCase,
        values.map fun value => value.literal.canonical⟩ := by
  have merged := mergeBeginnings?_map column ignoreCase true nonempty
  match values with
  | [] => contradiction
  | [_] => exact merged
  | [lower, upper] =>
      have noRange : mergeBounds? (beginningDemand column ignoreCase true lower)
          (beginningDemand column ignoreCase true upper) = none :=
        if_neg fun range => by simp [beginningDemand, beginningComparison] at range
      rw [List.map_cons, List.map_cons, List.map_nil, mergeAll?, noRange, Option.none_or]
      exact merged
  | _ :: _ :: _ :: _ => exact merged

/-- What a criterion says, its comparands as constants. -/
def demand : Demand :=
  ⟨criterion.field.name, criterion.comparison,
    criterion.values.map fun value => value.literal.canonical⟩

/-- The comparands of a range or of a comparison with one bound are literals of values. -/
theorem comparand_eq {index : Nat} {value : Value} (found : criterion.values[index]? = some value) :
    criterion.comparand index = value.literal := by
  have typed := criterion.comparands_typed value (List.mem_of_getElem? found)
  rw [comparand, found]
  exact if_pos typed.1

theorem exists_of_length_one {values : List Value} (one : (values.length == 1) = true) :
    ∃ value, values = [value] :=
  List.length_eq_one_iff.mp (eq_of_beq one)

theorem exists_of_length_two {values : List Value} (two : (values.length == 2) = true) :
    ∃ lower upper, values = [lower, upper] :=
  List.length_eq_two.mp (eq_of_beq two)

/-- The tests of a criterion with beginnings. -/
def beginningTests (ignoreCase negated : Bool) (values : List Value) : List Test :=
  values.map fun value => .like ignoreCase negated criterion.field.name value.pattern

/-- The group of several beginnings: all of them when negated, and else any. -/
def beginningGroup (negated : Bool) (tests : List Test) : Condition :=
  if negated then .all tests else .any tests

/-- One beginning is a test alone, and several make a group. -/
theorem condition_beginnings (ignoreCase negated : Bool)
    (compares : criterion.comparison = beginningComparison ignoreCase negated) :
    criterion.condition = match criterion.values with
      | [value] => .test (.like ignoreCase negated criterion.field.name value.pattern)
      | values => beginningGroup negated (criterion.beginningTests ignoreCase negated values) := by
  cases negated with
  | false | true =>
      simp only [condition, compares, beginningComparison, beginningGroup, beginningTests,
        patternTests, Bool.false_eq_true, if_true, if_false]
      rcases criterion.values with _ | ⟨value, _ | ⟨next, rest⟩⟩ <;> rfl

theorem values_ne_nil_of_beginnings {ignoreCase negated : Bool}
    (compares : criterion.comparison = beginningComparison ignoreCase negated) :
    criterion.values ≠ [] := by
  intro none
  have takes := criterion.takes_comparands
  rw [compares, none] at takes
  cases negated <;> contradiction

theorem texts_of_beginnings {ignoreCase negated : Bool}
    (compares : criterion.comparison = beginningComparison ignoreCase negated) :
    ∀ value ∈ criterion.values, value.type = .string := by
  have suited := criterion.suited
  rw [compares] at suited
  intro value member
  rw [(criterion.comparands_typed value member).1]
  cases negated <;> exact eq_of_beq suited

/-- The demands of beginnings in a group. -/
theorem testDemands_eq (column : String) (ignoreCase negated : Bool) {values : List Value}
    (texts : ∀ value ∈ values, value.type = .string) :
    ((values.map fun value => Test.like ignoreCase negated column value.pattern).map
        fun test => Formula.test test.canonical).mapM Formula.testDemand? =
      some (values.map (beginningDemand column ignoreCase negated)) := by
  rw [List.map_map]
  apply mapM_map_eq_some
  intro value member
  rw [Function.comp_apply, Test.canonical_like, Formula.testDemand?,
    demand?_like _ _ _ (texts value member)]

theorem demand?_beginningGroup (column : String) (ignoreCase negated : Bool)
    {values : List Value} (nonempty : values ≠ [])
    (texts : ∀ value ∈ values, value.type = .string) :
    (beginningGroup negated (values.map fun value =>
        .like ignoreCase negated column value.pattern)).formula.demand? =
      some ⟨column, beginningComparison ignoreCase negated,
        values.map fun value => value.literal.canonical⟩ := by
  cases negated with
  | false =>
      rw [beginningGroup, if_neg Bool.false_ne_true, Condition.formula, Formula.demand?,
        testDemands_eq column ignoreCase false texts]
      exact mergeBeginnings?_map column ignoreCase false nonempty
  | true =>
      rw [beginningGroup, if_pos rfl, Condition.formula, Formula.demand?,
        testDemands_eq column ignoreCase true texts]
      exact mergeAll?_map column ignoreCase nonempty

/-- The condition of a comparison with beginnings asks for them. -/
theorem demand?_beginnings (ignoreCase negated : Bool)
    (compares : criterion.comparison = beginningComparison ignoreCase negated) :
    criterion.condition.formula.demand? =
      some ⟨criterion.field.name, beginningComparison ignoreCase negated,
        criterion.values.map fun value => value.literal.canonical⟩ := by
  have texts := criterion.texts_of_beginnings compares
  rw [criterion.condition_beginnings ignoreCase negated compares]
  split
  · rename_i value values
    rw [values] at texts ⊢
    rw [Condition.formula, Test.canonical_like, Formula.demand?,
      demand?_like _ _ _ (texts value List.mem_cons_self)]
    rfl
  · exact demand?_beginningGroup _ ignoreCase negated
      (criterion.values_ne_nil_of_beginnings compares) texts

/-- The condition of a criterion asks what the criterion says. -/
theorem demand?_condition :
    criterion.condition.formula.demand? = some criterion.demand := by
  have takes := criterion.takes_comparands
  unfold demand
  cases compares : criterion.comparison with
  | isNull | isNotNull | isTrue | isFalse =>
      rw [compares] at takes
      have none : criterion.values = [] := List.eq_nil_of_length_eq_zero (eq_of_beq takes)
      simp only [condition, compares, none]
      rfl
  | isIn ignoreCase | isNotIn ignoreCase =>
      simp only [condition, compares, comparands_eq, Condition.formula, Formula.demand?,
        Test.canonical, Test.demand?, List.map_map]
      rfl
  | startsWith ignoreCase => exact criterion.demand?_beginnings ignoreCase false compares
  | startsNotWith ignoreCase => exact criterion.demand?_beginnings ignoreCase true compares
  | greaterThan | greaterThanOrEqual | lessThan | lessThanOrEqual =>
      rw [compares] at takes
      obtain ⟨value, values⟩ := exists_of_length_one takes
      have comparand : criterion.comparand 0 = value.literal :=
        criterion.comparand_eq (by rw [values]; rfl)
      simp only [condition, compares, comparand, values]
      rfl
  | between includeLower includeUpper =>
      rw [compares] at takes
      obtain ⟨lower, upper, values⟩ := exists_of_length_two takes
      have lowerEq : criterion.comparand 0 = lower.literal :=
        criterion.comparand_eq (by rw [values]; rfl)
      have upperEq : criterion.comparand 1 = upper.literal :=
        criterion.comparand_eq (by rw [values]; rfl)
      cases includeLower <;> cases includeUpper <;>
        simp [condition, compares, lowerEq, upperEq, values, Condition.formula,
          Formula.demand?, Formula.testDemand?, Test.canonical, Test.demand?, mergeAll?,
          mergeBounds?]

theorem isReadable_like (ignoreCase negated : Bool) (column pattern : String) :
    (Test.like ignoreCase negated column pattern).IsReadable := by
  constructor
  · intro literal member
    simp [Test.literals] at member
  · simp

theorem isReadable_compare {column : String} {operator : Operator} {literal : Literal}
    (storable : literal.IsStorable) : (Test.compare column operator literal).IsReadable := by
  constructor
  · intro other member
    rw [List.mem_singleton.mp member]
    exact storable
  · simp

theorem isReadable_test {test : Test} (readable : test.IsReadable) :
    (Condition.test test).IsReadable := by
  constructor
  · intro other member
    rw [List.mem_singleton.mp member]
    exact readable
  · trivial

theorem isReadable_beginnings (ignoreCase negated : Bool)
    (compares : criterion.comparison = beginningComparison ignoreCase negated) :
    criterion.condition.IsReadable := by
  have nonempty := criterion.values_ne_nil_of_beginnings compares
  have readable : ∀ test ∈ criterion.beginningTests ignoreCase negated criterion.values,
      test.IsReadable := by
    intro test member
    obtain ⟨value, -, rfl⟩ := List.mem_map.mp member
    exact isReadable_like ignoreCase negated _ _
  rw [criterion.condition_beginnings ignoreCase negated compares]
  split
  · exact isReadable_test (isReadable_like _ _ _ _)
  · rename_i several
    have many :
        2 ≤ (criterion.beginningTests ignoreCase negated criterion.values).length := by
      rw [beginningTests, List.length_map]
      match values : criterion.values with
      | [] => exact absurd values nonempty
      | [value] => exact absurd values (several value)
      | _ :: _ :: _ => simp
    cases negated <;> exact ⟨readable, many⟩

/-- The condition of a criterion can be read. -/
theorem isReadable_condition : criterion.condition.IsReadable := by
  have takes := criterion.takes_comparands
  have storable : ∀ value ∈ criterion.values, value.literal.IsStorable := fun value member =>
    Value.isStorable_literal (criterion.comparands_typed value member).2
  cases compares : criterion.comparison with
  | isNull | isNotNull =>
      simp only [condition, compares]
      exact isReadable_test ⟨by simp [Test.literals], by simp⟩
  | isTrue | isFalse =>
      simp only [condition, compares]
      exact isReadable_test (isReadable_compare trivial)
  | isIn ignoreCase | isNotIn ignoreCase =>
      rw [compares] at takes
      simp only [condition, compares, comparands_eq]
      apply isReadable_test
      constructor
      · intro literal member
        obtain ⟨value, valueMember, rfl⟩ := List.mem_map.mp member
        exact storable value valueMember
      · intro _ _ _ empty
        simp only [Test.isIn.injEq, List.map_eq_nil_iff] at empty
        simp [empty.2.2.2, Comparison.takes] at takes
  | startsWith ignoreCase => exact criterion.isReadable_beginnings ignoreCase false compares
  | startsNotWith ignoreCase => exact criterion.isReadable_beginnings ignoreCase true compares
  | greaterThan | greaterThanOrEqual | lessThan | lessThanOrEqual =>
      rw [compares] at takes
      obtain ⟨value, values⟩ := exists_of_length_one takes
      have comparand : criterion.comparand 0 = value.literal :=
        criterion.comparand_eq (by rw [values]; rfl)
      simp only [condition, compares, comparand]
      exact isReadable_test (isReadable_compare (storable value (by simp [values])))
  | between includeLower includeUpper =>
      rw [compares] at takes
      obtain ⟨lower, upper, values⟩ := exists_of_length_two takes
      have lowerEq : criterion.comparand 0 = lower.literal :=
        criterion.comparand_eq (by rw [values]; rfl)
      have upperEq : criterion.comparand 1 = upper.literal :=
        criterion.comparand_eq (by rw [values]; rfl)
      have lowerStorable := storable lower (by simp [values])
      have upperStorable := storable upper (by simp [values])
      have sides : ∀ lowerSign upperSign : Operator,
          (Condition.all [.compare criterion.field.name lowerSign lower.literal,
            .compare criterion.field.name upperSign upper.literal]).IsReadable := by
        intro lowerSign upperSign
        constructor
        · intro test member
          rcases List.mem_pair.mp member with rfl | rfl
          · exact isReadable_compare lowerStorable
          · exact isReadable_compare upperStorable
        · exact Nat.le_refl 2
      cases includeLower <;> cases includeUpper <;>
        simp only [condition, compares, lowerEq, upperEq]
      · exact sides _ _
      · exact sides _ _
      · exact sides _ _
      · apply isReadable_test
        constructor
        · intro literal member
          rcases List.mem_pair.mp member with rfl | rfl
          · exact lowerStorable
          · exact upperStorable
        · simp

/-- What a criterion shows besides the content of its comparands. -/
structure Shape where
  column : String
  type : ValueType
  comparison : Comparison
  count : Nat
deriving DecidableEq

/-- The shape of a criterion. -/
def shape : Shape :=
  ⟨criterion.field.name, criterion.field.type, criterion.comparison, criterion.values.length⟩

theorem type_ne_boolean (some : criterion.values ≠ []) : criterion.field.type ≠ .boolean := by
  intro boolean
  have suited := criterion.suited
  have takes := criterion.takes_comparands
  rw [boolean] at suited
  have none : criterion.values.length = 0 := by
    cases compares : criterion.comparison with
    | isIn ignoreCase | isNotIn ignoreCase =>
        rw [compares] at suited
        cases ignoreCase <;> contradiction
    | isNull | isNotNull | isTrue | isFalse =>
        rw [compares] at takes
        exact eq_of_beq takes
    | _ =>
        rw [compares] at suited
        contradiction
  exact some (List.eq_nil_of_length_eq_zero none)

/-- The skeleton of a comparand depends only on the type of the field. -/
theorem skeleton_literal {value : Value} (member : value ∈ criterion.values) :
    value.literal.skeleton = criterion.field.type.sample := by
  have notBoolean := criterion.type_ne_boolean (List.ne_nil_of_mem member)
  rw [← (criterion.comparands_typed value member).1] at notBoolean ⊢
  exact value.skeleton_literal notBoolean

theorem map_skeleton_literal :
    (criterion.values.map Value.literal).map Literal.skeleton =
      List.replicate criterion.values.length criterion.field.type.sample := by
  rw [List.map_map, ← List.map_const']
  exact List.map_congr_left fun value member => criterion.skeleton_literal member

theorem skeleton_comparand (index : Nat) (inside : index < criterion.values.length) :
    (criterion.comparand index).skeleton = criterion.field.type.sample := by
  have found : criterion.values[index]? = some criterion.values[index] :=
    List.getElem?_eq_getElem inside
  rw [criterion.comparand_eq found]
  exact criterion.skeleton_literal (List.getElem_mem inside)

theorem map_skeleton_beginningTests (ignoreCase negated : Bool) :
    (criterion.beginningTests ignoreCase negated criterion.values).map Test.skeleton =
      List.replicate criterion.values.length
        (.like ignoreCase negated criterion.field.name "") := by
  rw [beginningTests, List.map_map, ← List.map_const']
  rfl

theorem skeleton_beginnings (ignoreCase negated : Bool)
    (compares : criterion.comparison = beginningComparison ignoreCase negated) :
    criterion.condition.skeleton =
      if criterion.values.length = 1 then
        .test (.like ignoreCase negated criterion.field.name "")
      else beginningGroup negated (List.replicate criterion.values.length
        (.like ignoreCase negated criterion.field.name "")) := by
  rw [criterion.condition_beginnings ignoreCase negated compares]
  split
  · rename_i value values
    rw [values]
    rfl
  · rename_i several
    have many : criterion.values.length ≠ 1 := by
      intro one
      obtain ⟨value, values⟩ := List.length_eq_one_iff.mp one
      exact several value values
    rw [if_neg many, ← map_skeleton_beginningTests]
    cases negated <;> rfl

/-- The conditions of criteria of one shape have one form. -/
theorem skeleton_condition_eq {a b : Criterion} (same : a.shape = b.shape) :
    a.condition.skeleton = b.condition.skeleton := by
  simp only [shape, Shape.mk.injEq] at same
  obtain ⟨sameName, sameType, sameComparison, sameCount⟩ := same
  have takes := a.takes_comparands
  cases compares : a.comparison with
  | isNull | isNotNull | isTrue | isFalse =>
      rw [compares] at sameComparison
      simp only [condition, compares, ← sameComparison, sameName]
  | isIn ignoreCase | isNotIn ignoreCase =>
      rw [compares] at sameComparison
      simp only [condition, compares, ← sameComparison, comparands_eq, Condition.skeleton,
        Test.skeleton, map_skeleton_literal, sameName, sameType, sameCount]
  | startsWith ignoreCase =>
      rw [compares] at sameComparison
      rw [a.skeleton_beginnings ignoreCase false compares,
        b.skeleton_beginnings ignoreCase false sameComparison.symm, sameName, sameCount]
  | startsNotWith ignoreCase =>
      rw [compares] at sameComparison
      rw [a.skeleton_beginnings ignoreCase true compares,
        b.skeleton_beginnings ignoreCase true sameComparison.symm, sameName, sameCount]
  | greaterThan | greaterThanOrEqual | lessThan | lessThanOrEqual =>
      rw [compares] at sameComparison takes
      have one : a.values.length = 1 := eq_of_beq takes
      have first := a.skeleton_comparand 0 (by omega)
      have second := b.skeleton_comparand 0 (by omega)
      simp only [condition, compares, ← sameComparison, Condition.skeleton, Test.skeleton,
        first, second, sameName, sameType]
  | between includeLower includeUpper =>
      rw [compares] at sameComparison takes
      have two : a.values.length = 2 := eq_of_beq takes
      have lower := a.skeleton_comparand 0 (by omega)
      have upper := a.skeleton_comparand 1 (by omega)
      have otherLower := b.skeleton_comparand 0 (by omega)
      have otherUpper := b.skeleton_comparand 1 (by omega)
      cases includeLower <;> cases includeUpper <;>
        simp only [condition, compares, ← sameComparison, Condition.skeleton, Test.skeleton,
          List.map_cons, List.map_nil, lower, upper, otherLower, otherUpper, sameName, sameType]

end Criterion

end TableStore
