import TableStore.Proofs.Criterion.Constants
import TableStore.Proofs.Criterion.Match
import TableStore.Proofs.Field.Acceptance

/-!
# Well-formed matches

A match on a field is well formed when the field is of the match's family, when the field can hold
every comparand, when there are as many comparands as the match is about, and when the bounds of a
range are in order. Criteria are built from exactly the well-formed matches; against any other
match stands the first of these demands that it misses.

So whatever the condition of a criterion reads of its comparands is there.
-/

namespace TableStore

open Binary Sql

/-- The types of a family. -/
def Family.types : Family → List ValueType
  | .numeric => [.byte, .integer, .long, .float, .double]
  | .temporal => [.localDate, .localTime, .localDateTime]
  | .string => [.string]
  | .boolean => [.boolean]

/-- Whether a match for numbers or points in time is about a number of comparands. -/
def OrderedMatch.Takes : OrderedMatch → Nat → Prop
  | .isNull, count | .isNotNull, count => count = 0
  | .exactIn, count | .exactNotIn, count => 1 ≤ count
  | .greaterThan, count | .greaterThanOrEqual, count | .lessThan, count
  | .lessThanOrEqual, count => count = 1
  | .betweenExcludeBounds, count | .betweenExcludeLowerBound, count
  | .betweenExcludeUpperBound, count | .betweenIncludeBounds, count => count = 2

/-- Whether a match for texts is about a number of comparands. -/
def StringMatch.Takes : StringMatch → Nat → Prop
  | .isNull, count | .isNotNull, count => count = 0
  | _, count => 1 ≤ count

/-- The matches with two bounds. -/
def OrderedMatch.ranges : List OrderedMatch :=
  [.betweenExcludeBounds, .betweenExcludeLowerBound, .betweenExcludeUpperBound,
    .betweenIncludeBounds]

/-- Whether two values can be compared and the first is not above the second. What is not a number
cannot be compared. -/
def Value.NotAbove : Value → Value → Prop
  | .float a, .float b => a.isNaN = false ∧ b.isNaN = false ∧ a.place ≤ b.place
  | .double a, .double b => a.isNaN = false ∧ b.isNaN = false ∧ a.place ≤ b.place
  | a, b => a.AtMost b

theorem Family.admits_iff {family : Family} {type : ValueType} :
    family.admits type = true ↔ type ∈ family.types := by
  cases family <;> cases type <;> decide

namespace Criterion

theorem inOrder_eq (lower upper : Value) :
    inOrder lower upper = (lower.compare? upper).any Ordering.isLE := by
  unfold inOrder
  rcases lower.compare? upper with _ | ordering
  · rfl
  · cases ordering <;> rfl

/-- Bounds are found in order when they can be compared and the lower is not above the upper. -/
theorem inOrder_iff {lower upper : Value} (same : lower.type = upper.type) :
    inOrder lower upper = true ↔ lower.NotAbove upper := by
  rw [inOrder_eq]
  cases lower with
  | float x =>
      cases upper with
      | float y => exact Number.compare?_isLE_iff (by decide)
      | _ => contradiction
  | double x =>
      cases upper with
      | double y => exact Number.compare?_isLE_iff (by decide)
      | _ => contradiction
  | _ =>
      cases upper <;> first
        | contradiction
        | exact Ordering.isLE_iff_ne_gt

variable {field : Field} {comparison : Comparison} {values : List Value} {error : Error}

theorem check_eq_error_iff {suited : comparison.suits field.type = true} :
    check field comparison values suited = .error error ↔
      Criterion.error? field comparison values = some error := by
  unfold check
  split <;> simp [*]

/-- A criterion is given when nothing is found against what it is asked to hold. -/
theorem exists_check_iff {suited : comparison.suits field.type = true} :
    (∃ criterion, check field comparison values suited = .ok criterion) ↔
      Criterion.error? field comparison values = none := by
  unfold check
  split <;> simp [*]

end Criterion

namespace Match

/-- The family that a match is for; tests for emptiness are for every field. -/
def family? : Match → Option Family
  | .isNull _ | .isNotNull _ => none
  | .boolean _ _ => some .boolean
  | .numeric _ _ _ => some .numeric
  | .temporal _ _ _ => some .temporal
  | .string _ _ _ => some .string

/-- Whether a match has the number of comparands that it is about. -/
def HasComparands : Match → Prop
  | .isNull _ | .isNotNull _ | .boolean _ _ => True
  | .numeric _ matching values | .temporal _ matching values => matching.Takes values.length
  | .string _ matching values => matching.Takes values.length

/-- Whether a match is one with two bounds. -/
def IsRange : Match → Prop
  | .numeric _ matching _ | .temporal _ matching _ => matching ∈ OrderedMatch.ranges
  | _ => False

/-- Whether the field of a match can hold all the comparands. -/
def HoldsComparands (m : Match) : Prop :=
  ∀ value ∈ m.values, value.type = m.field.type ∧ value.IsStorable

/-- Whether the bounds of a match are in order, if it is one with two bounds. -/
def IsInOrder (m : Match) : Prop :=
  m.IsRange → ∀ lower upper, m.values = [lower, upper] → lower.NotAbove upper

/-- Whether a match makes a criterion. -/
structure IsWellFormed (m : Match) : Prop where
  family : ∀ family ∈ m.family?, m.field.type ∈ family.types
  held : m.HoldsComparands
  count : m.HasComparands
  inOrder : m.IsInOrder

/-- Why a match makes no criterion: the family comes before the comparands, these before their
number, and the number before the order of the bounds. -/
inductive Refuses (m : Match) : Error → Prop
  | family {family : Family} (isFor : m.family? = some family)
      (otherType : m.field.type ∉ family.types) :
      m.Refuses (.invalidCriterion m.field.name (.family family m.field.type))
  | comparand {before after : List Value} {value : Value} {error : Error}
      (family : ∀ family ∈ m.family?, m.field.type ∈ family.types)
      (values : m.values = before ++ value :: after)
      (held : ∀ earlier ∈ before, earlier.type = m.field.type ∧ earlier.IsStorable)
      (cannotHold : m.field.CannotHold value error) : m.Refuses error
  | count (family : ∀ family ∈ m.family?, m.field.type ∈ family.types)
      (held : m.HoldsComparands) (otherCount : ¬m.HasComparands) :
      m.Refuses (.invalidCriterion m.field.name (.comparands m.comparison m.values.length))
  | bounds (family : ∀ family ∈ m.family?, m.field.type ∈ family.types)
      (held : m.HoldsComparands) (count : m.HasComparands) (outOfOrder : ¬m.IsInOrder) :
      m.Refuses (.invalidCriterion m.field.name .bounds)

variable {m : Match} {error : Error}

theorem isOfFamily_iff :
    m.isOfFamily = true ↔ ∀ family ∈ m.family?, m.field.type ∈ family.types := by
  cases m <;> simp [isOfFamily, family?, Match.field, Family.admits_iff]

/-- Comparisons take the numbers of comparands that the matches are about. -/
theorem takes_iff : m.comparison.takes m.values.length = true ↔ m.HasComparands := by
  cases m with
  | isNull field | isNotNull field => exact iff_of_true rfl trivial
  | boolean field matching => cases matching <;> exact iff_of_true rfl trivial
  | numeric field matching values | temporal field matching values =>
      cases matching <;>
        simp [comparison, OrderedMatch.comparison, Comparison.takes, HasComparands,
          OrderedMatch.Takes, Match.values, Nat.one_le_iff_ne_zero]
  | string field matching values =>
      cases matching <;>
        simp [comparison, StringMatch.comparison, Comparison.takes, HasComparands,
          StringMatch.Takes, Match.values, Nat.one_le_iff_ne_zero]

/-- The matches with two bounds name the comparisons that have two. -/
theorem isRange_iff :
    m.IsRange ↔ ∃ includeLower includeUpper,
      m.comparison = .between includeLower includeUpper := by
  cases m with
  | isNull field | isNotNull field => simp [IsRange, comparison]
  | boolean field matching => cases matching <;> simp [IsRange, comparison, BooleanMatch.comparison]
  | numeric field matching values | temporal field matching values =>
      cases matching <;> simp [IsRange, comparison, OrderedMatch.comparison, OrderedMatch.ranges]
  | string field matching values =>
      cases matching <;> simp [IsRange, comparison, StringMatch.comparison]

theorem comparandError?_eq_none_iff :
    Criterion.comparandError? m.field m.values = none ↔ m.HoldsComparands := by
  rw [Criterion.comparandError?, List.findSome?_eq_none_iff, HoldsComparands]
  simp only [Field.typeError?_eq_none_iff_isStorable]

theorem countError?_eq_none_iff :
    Criterion.countError? m.field m.comparison m.values = none ↔ m.HasComparands := by
  rw [Criterion.countError?, ← takes_iff]
  split <;> simp [*]

theorem boundsError?_eq_none_iff (held : m.HoldsComparands) :
    Criterion.boundsError? m.field m.comparison m.values = none ↔ m.IsInOrder := by
  unfold Criterion.boundsError?
  split
  · rename_i includeLower includeUpper lower upper compares bounds
    have range : m.IsRange := isRange_iff.mpr ⟨_, _, compares⟩
    have lowerTyped := held lower (by simp [bounds])
    have upperTyped := held upper (by simp [bounds])
    have inOrder : m.IsInOrder ↔ lower.NotAbove upper := by
      simp [IsInOrder, range, bounds]
    rw [inOrder, ← Criterion.inOrder_iff (lowerTyped.1.trans upperTyped.1.symm)]
    split <;> simp [*]
  · rename_i noBounds
    apply iff_of_true rfl
    intro range lower upper bounds
    rcases isRange_iff.mp range with ⟨includeLower, includeUpper, compares⟩
    exact (noBounds _ _ lower upper compares bounds).elim

/-- Nothing is found against a comparison and its comparands when the field holds them all, when
they are as many as they should be, and when they are in order. -/
theorem error?_eq_none_iff :
    Criterion.error? m.field m.comparison m.values = none ↔
      m.HoldsComparands ∧ m.HasComparands ∧ m.IsInOrder := by
  rw [Criterion.error?, Option.or_eq_none_iff, Option.or_eq_none_iff, comparandError?_eq_none_iff,
    countError?_eq_none_iff]
  constructor
  · rintro ⟨held, count, inOrder⟩
    exact ⟨held, count, (boundsError?_eq_none_iff held).mp inOrder⟩
  · rintro ⟨held, count, inOrder⟩
    exact ⟨held, count, (boundsError?_eq_none_iff held).mpr inOrder⟩

theorem comparandError?_eq_some_iff :
    Criterion.comparandError? m.field m.values = some error ↔
      ∃ before value after, m.values = before ++ value :: after ∧
        m.field.CannotHold value error ∧
        ∀ earlier ∈ before, earlier.type = m.field.type ∧ earlier.IsStorable := by
  rw [Criterion.comparandError?, List.findSome?_eq_some_iff]
  simp only [Field.typeError?_eq_some_iff, Field.typeError?_eq_none_iff_isStorable]

theorem eq_of_countError?
    (found : Criterion.countError? m.field m.comparison m.values = some error) :
    error = .invalidCriterion m.field.name (.comparands m.comparison m.values.length) := by
  unfold Criterion.countError? at found
  split at found
  · cases found
  · exact (Option.some.inj found).symm

theorem eq_of_boundsError?
    (found : Criterion.boundsError? m.field m.comparison m.values = some error) :
    error = .invalidCriterion m.field.name .bounds := by
  unfold Criterion.boundsError? at found
  split at found
  · split at found
    · cases found
    · exact (Option.some.inj found).symm
  · cases found

/-- What is found against a comparison and its comparands on a field of the family is why the
match is refused. -/
theorem error?_eq_some_iff (family : ∀ family ∈ m.family?, m.field.type ∈ family.types) :
    Criterion.error? m.field m.comparison m.values = some error ↔ m.Refuses error := by
  rw [Criterion.error?, Option.or_eq_some_iff, Option.or_eq_some_iff, comparandError?_eq_none_iff,
    countError?_eq_none_iff, comparandError?_eq_some_iff]
  constructor
  · rintro (⟨before, value, after, values, cannotHold, held⟩ | ⟨held, counted | ⟨count, ordered⟩⟩)
    · exact .comparand family values held cannotHold
    · have otherCount : ¬m.HasComparands := by
        rw [← countError?_eq_none_iff, counted]
        exact Option.some_ne_none _
      rw [eq_of_countError? counted]
      exact .count family held otherCount
    · have outOfOrder : ¬m.IsInOrder := by
        rw [← boundsError?_eq_none_iff held, ordered]
        exact Option.some_ne_none _
      rw [eq_of_boundsError? ordered]
      exact .bounds family held count outOfOrder
  · intro refuses
    cases refuses with
    | family isFor otherType => exact absurd (family _ isFor) otherType
    | comparand _ values held cannotHold => exact .inl ⟨_, _, _, values, cannotHold, held⟩
    | count _ held otherCount =>
        obtain ⟨error, counted⟩ :=
          Option.ne_none_iff_exists'.mp (mt countError?_eq_none_iff.mp otherCount)
        rw [eq_of_countError? counted] at counted
        exact .inr ⟨held, .inl counted⟩
    | bounds _ held count outOfOrder =>
        obtain ⟨error, ordered⟩ :=
          Option.ne_none_iff_exists'.mp (mt (boundsError?_eq_none_iff held).mp outOfOrder)
        rw [eq_of_boundsError? ordered] at ordered
        exact .inr ⟨held, .inr ⟨count, ordered⟩⟩

/-- On a field of the family a match puts its comparison to the check. -/
theorem exists_criterion_eq_check (family : ∀ family ∈ m.family?, m.field.type ∈ family.types) :
    ∃ suited, m.criterion = Criterion.check m.field m.comparison m.values suited := by
  have member := isOfFamily_iff.mpr family
  cases m with
  | isNull field | isNotNull field =>
      exact ⟨rfl, (Criterion.check_eq_ok_iff.mpr ⟨rfl, rfl, rfl⟩).symm⟩
  | boolean field matching => exact ⟨matching.comparison_suits member, dif_pos member⟩
  | numeric field matching values => exact ⟨matching.comparison_suits (.inl member), dif_pos member⟩
  | temporal field matching values =>
      exact ⟨matching.comparison_suits (.inr member), dif_pos member⟩
  | string field matching values => exact ⟨matching.comparison_suits member, dif_pos member⟩

/-- On any other field a match is refused for its family. -/
theorem criterion_of_otherType {family : Family} (isFor : m.family? = some family)
    (otherType : m.field.type ∉ family.types) :
    m.criterion = .error (.invalidCriterion m.field.name (.family family m.field.type)) := by
  rw [← Family.admits_iff] at otherType
  cases m with
  | isNull field | isNotNull field => cases isFor
  | boolean field matching | numeric field matching values | temporal field matching values
  | string field matching values =>
      cases isFor
      exact dif_neg otherType

theorem exists_otherType (unmet : ¬∀ family ∈ m.family?, m.field.type ∈ family.types) :
    ∃ family, m.family? = some family ∧ m.field.type ∉ family.types := by
  simpa using unmet

/-- A criterion is built from a match exactly when the match is well formed. -/
theorem exists_criterion_iff :
    (∃ criterion, m.criterion = .ok criterion) ↔ m.IsWellFormed := by
  by_cases family : ∀ family ∈ m.family?, m.field.type ∈ family.types
  · obtain ⟨suited, checked⟩ := exists_criterion_eq_check family
    rw [checked, Criterion.exists_check_iff, error?_eq_none_iff]
    exact ⟨fun ⟨held, count, inOrder⟩ => ⟨family, held, count, inOrder⟩,
      fun wellFormed => ⟨wellFormed.held, wellFormed.count, wellFormed.inOrder⟩⟩
  · apply iff_of_false _ fun wellFormed => family wellFormed.family
    rcases exists_otherType family with ⟨wanted, isFor, otherType⟩
    rw [criterion_of_otherType isFor otherType]
    rintro ⟨criterion, ⟨⟩⟩

/-- The error is why the match is refused. -/
theorem criterion_eq_error_iff : m.criterion = .error error ↔ m.Refuses error := by
  by_cases family : ∀ family ∈ m.family?, m.field.type ∈ family.types
  · obtain ⟨suited, checked⟩ := exists_criterion_eq_check family
    rw [checked, Criterion.check_eq_error_iff, error?_eq_some_iff family]
  · rcases exists_otherType family with ⟨wanted, isFor, otherType⟩
    rw [criterion_of_otherType isFor otherType]
    constructor
    · rintro ⟨⟩
      exact .family isFor otherType
    · intro refuses
      cases refuses with
      | family own =>
          cases isFor.symm.trans own
          rfl
      | comparand met | count met | bounds met => exact absurd met family

/-- Criteria are built from exactly the well-formed matches. They keep the field, the comparison
and the comparands, and the error against any other match is why it is refused. The condition of
every criterion finds all the comparands that it reads. -/
theorem criteria_are_well_formed_matches (m : Match) :
    ((∃ criterion, m.criterion = .ok criterion) ↔ m.IsWellFormed) ∧
      (∀ criterion, m.criterion = .ok criterion →
        criterion.field = m.field ∧ criterion.comparison = m.comparison ∧
          criterion.values = m.values ∧ criterion.IsComplete) ∧
      ∀ error, m.criterion = .error error ↔ m.Refuses error := by
  refine ⟨exists_criterion_iff, ?_, fun _ => criterion_eq_error_iff⟩
  intro criterion built
  rcases m.criterion_eq_ok_iff.mp built with ⟨-, sameField, sameComparison, sameValues⟩
  exact ⟨sameField, sameComparison, sameValues, criterion.isComplete⟩

/-- A column of weights. -/
def weights : Field := { name := "weight", type := .double, role := .notNull }

/-- The two zeros are bounds in order, what is not a number is no bound, and a comparand of another
type is found before there are too many. -/
theorem ranges_of_weights :
    (∃ criterion, (numeric weights .betweenIncludeBounds
        [.double (.ofMagnitude false 0), .double (.ofMagnitude true 0)]).criterion = .ok criterion ∧
      criterion.values.length = 2 ∧ criterion.IsComplete) ∧
    (numeric weights .betweenIncludeBounds
      [.double (.nan .double), .double (.nan .double)]).Refuses
        (.invalidCriterion "weight" .bounds) ∧
    (numeric weights .lessThan [.double (.ofMagnitude false 0), .integer 1]).Refuses
      (.typeMismatch "weight" .double .integer) := by
  refine ⟨?_, ?_, ?_⟩
  · have kept := (criteria_are_well_formed_matches (numeric weights .betweenIncludeBounds
      [.double (.ofMagnitude false 0), .double (.ofMagnitude true 0)])).2.1 _ rfl
    exact ⟨_, rfl, congrArg List.length kept.2.2.1, kept.2.2.2⟩
  · exact ((criteria_are_well_formed_matches _).2.2 _).mp (by decide +kernel)
  · exact ((criteria_are_well_formed_matches _).2.2 _).mp (by decide +kernel)

end Match

end TableStore
