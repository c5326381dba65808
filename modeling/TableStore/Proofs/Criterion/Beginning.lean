import TableStore.Proofs.Criterion.Match
import TableStore.Proofs.Sql.Pattern

/-!
# Beginnings are matched literally

The matches with beginnings name a list of texts. A server that reads the condition of such a match
and knows patterns finds that it holds of a text that begins with one of the listed ones, or if it
is negated with none; of an empty cell neither holds. Marks in a listed text stand for themselves.

Where case is ignored the same is true of folded texts, whatever the fold, if it leaves the marks of
patterns alone.
-/

namespace TableStore

open Sql

namespace Sql.Formula

/-- What a server reads in the text of a condition. -/
def ofText? (text : String) : Option Formula := do
  let tokens ← tokenize text.toList
  readAll? (readAlternative (readPart (tokens.length + 2))) tokens

/-- The text of a readable condition is read as its formula. -/
theorem ofText?_text {condition : Condition} (readable : condition.IsReadable) :
    ofText? condition.text = some condition.formula := by
  have tokens : tokenize condition.text.toList = some condition.tokens :=
    spells_condition condition
  have part := reads_part condition.tokens.length readable
  have conjunction : Reads [.word "and", .cast]
      (readConjunction (readPart (condition.tokens.length + 2))) condition.tokens
      condition.formula :=
    part.single.map (combine .all)
  simp only [ofText?, tokens, Option.bind_eq_bind, Option.bind_some]
  exact conjunction.alternative.readAll?

variable {known : Test → Option Truth}

theorem truths?_tests {α : Type} {items : List α} {test : α → Test} {truth : α → Truth}
    (each : ∀ x ∈ items, known (test x) = some (truth x)) :
    truths? known (items.map fun x => .test (test x)) = some (items.map truth) := by
  induction items with
  | nil => rfl
  | cons x items ih =>
      obtain ⟨first, rest⟩ := List.forall_mem_cons.mp each
      rw [List.map_cons, truths?, ih rest, truth?, first]
      rfl

end Sql.Formula

/-- The match with beginnings of a kind. -/
def StringMatch.beginning : Bool → Bool → StringMatch
  | false, false => .exactStartsWith
  | false, true => .exactNotStartsWith
  | true, false => .caseInsensitiveStartsWith
  | true, true => .caseInsensitiveNotStartsWith

theorem StringMatch.comparison_beginning (ignoreCase negated : Bool) :
    (beginning ignoreCase negated).comparison =
      Criterion.beginningComparison ignoreCase negated := by
  cases ignoreCase <;> cases negated <;> rfl

/-- Whether a text begins with another, both folded if case is ignored. -/
def BeginsWith (fold : Char → Char) (ignoreCase : Bool) (start text : String) : Prop :=
  caseFolded fold ignoreCase start <+: caseFolded fold ignoreCase text

namespace Criterion

/-- A match with at least one beginning on a field of texts makes a criterion. -/
theorem exists_beginning {field : Field} (texts : field.type = .string) {starts : List String}
    (nonempty : starts ≠ []) (ignoreCase negated : Bool) :
    ∃ criterion : Criterion,
      string field (.beginning ignoreCase negated) (starts.map .string) = .ok criterion := by
  have admits : Family.string.admits field.type = true := beq_iff_eq.mpr texts
  have typed : comparandError? field (starts.map .string) = none := by
    rw [comparandError?, List.findSome?_eq_none_iff]
    intro value member
    obtain ⟨start, -, rfl⟩ := List.mem_map.mp member
    exact (field.typeError?_eq_none_iff _).mpr ⟨texts.symm, rfl⟩
  have accepted : error? field (StringMatch.beginning ignoreCase negated).comparison
      (starts.map .string) = none := by
    cases ignoreCase <;> cases negated <;>
      simp [error?, typed, countError?, boundsError?, StringMatch.beginning,
        StringMatch.comparison, Comparison.takes, nonempty]
  refine ⟨⟨field, _, _, StringMatch.comparison_suits _ admits, accepted⟩, ?_⟩
  rw [string, dif_pos admits]
  exact check_eq_ok_iff.mpr ⟨rfl, rfl, rfl⟩

/-- The truth of the statement that a cell begins with a text. -/
def beginningTruth (fold : Char → Char) (ignoreCase : Bool) (cell : Option String)
    (start : String) : Truth :=
  (Pattern.beginning (caseFolded fold ignoreCase start)).truth fold ignoreCase cell

/-- The truth of the statement that a cell begins with some of several texts, or if it is negated
with none of them. -/
def beginningsTruth (fold : Char → Char) (ignoreCase negated : Bool) (cell : Option String)
    (starts : List String) : Truth :=
  let truths := starts.map fun start =>
    Truth.negateIf negated (beginningTruth fold ignoreCase cell start)
  if negated then .all truths else .any truths

theorem beginningsTruth_singleton (fold : Char → Char) (ignoreCase negated : Bool)
    (cell : Option String) (start : String) :
    beginningsTruth fold ignoreCase negated cell [start] =
      .negateIf negated (beginningTruth fold ignoreCase cell start) := by
  cases negated <;> simp [beginningsTruth]

section Truths

variable {fold : Char → Char} {ignoreCase : Bool} {cell : Option String}

/-- It is known of a pattern test of a beginning whether it holds. -/
theorem patternTruth?_like (keeps : KeepsMarks fold) (ignoreCase negated : Bool)
    (cell : Option String) (column start : String) :
    (Test.like ignoreCase negated column (Value.string start).pattern).patternTruth? fold column
      cell = some (.negateIf negated (beginningTruth fold ignoreCase cell start)) := by
  rw [Test.patternTruth?, if_pos rfl, caseFolded_pattern keeps, Pattern.ofText?_beginningWith]
  rfl

/-- A group of pattern tests of beginnings is as true as the statement about all of them. -/
theorem truth?_group (keeps : KeepsMarks fold) (negated : Bool) (criterion : Criterion)
    (starts : List String) :
    (beginningGroup negated (criterion.beginningTests ignoreCase negated
        (starts.map .string))).formula.truth?
        (Test.patternTruth? fold criterion.field.name cell) =
      some (beginningsTruth fold ignoreCase negated cell starts) := by
  have truths := Formula.truths?_tests fun start (_ : start ∈ starts) =>
    patternTruth?_like keeps ignoreCase negated cell criterion.field.name start
  cases negated with
  | false =>
      rw [beginningTests, List.map_map, beginningGroup, if_neg Bool.false_ne_true,
        Condition.formula, List.map_map, Formula.truth?]
      exact congrArg (Option.map Truth.any) truths
  | true =>
      rw [beginningTests, List.map_map, beginningGroup, if_pos rfl, Condition.formula,
        List.map_map, Formula.truth?]
      exact congrArg (Option.map Truth.all) truths

/-- A criterion with beginnings is as true as the statement about all of them. -/
theorem truth?_beginnings (keeps : KeepsMarks fold) {negated : Bool} {criterion : Criterion}
    {starts : List String}
    (compares : criterion.comparison = beginningComparison ignoreCase negated)
    (listed : criterion.values = starts.map .string) :
    criterion.condition.formula.truth?
        (Test.patternTruth? fold criterion.field.name cell) =
      some (beginningsTruth fold ignoreCase negated cell starts) := by
  rw [criterion.condition_beginnings ignoreCase negated compares, listed]
  -- only a single beginning stands without parentheses
  match starts with
  | [start] =>
      rw [beginningsTruth_singleton]
      exact patternTruth?_like keeps ignoreCase negated cell criterion.field.name start
  | [] => exact truth?_group keeps negated criterion []
  | first :: second :: rest =>
      exact truth?_group keeps negated criterion (first :: second :: rest)

theorem beginningTruth_eq_holds_iff {start : String} :
    beginningTruth fold ignoreCase cell start = .holds ↔
      ∃ text, cell = some text ∧ BeginsWith fold ignoreCase start text := by
  cases cell with
  | none => simp [beginningTruth, Pattern.truth]
  | some text =>
      simp [beginningTruth, Pattern.truth, Pattern.matchesText_beginning_iff, BeginsWith]

theorem beginningTruth_eq_fails_iff {start : String} :
    beginningTruth fold ignoreCase cell start = .fails ↔
      ∃ text, cell = some text ∧ ¬BeginsWith fold ignoreCase start text := by
  cases cell with
  | none => simp [beginningTruth, Pattern.truth]
  | some text =>
      simp [beginningTruth, Pattern.truth, BeginsWith, ← Pattern.matchesText_beginning_iff]

/-- The statement about at least one beginning holds of a text that begins with one of them, or if
it is negated of a text that begins with none. -/
theorem beginningsTruth_eq_holds_iff {starts : List String} (nonempty : starts ≠ [])
    (negated : Bool) :
    beginningsTruth fold ignoreCase negated cell starts = .holds ↔
      ∃ text, cell = some text ∧
        if negated then ∀ start ∈ starts, ¬BeginsWith fold ignoreCase start text
        else ∃ start ∈ starts, BeginsWith fold ignoreCase start text := by
  cases negated with
  | false =>
      calc Truth.any (starts.map (beginningTruth fold ignoreCase cell)) = .holds
          ↔ ∃ start ∈ starts, beginningTruth fold ignoreCase cell start = .holds := by simp
        _ ↔ _ := exists_congr fun _ => and_congr_right fun _ => beginningTruth_eq_holds_iff
        _ ↔ _ := exists_mem_exists_iff
  | true =>
      calc Truth.all (starts.map fun start => (beginningTruth fold ignoreCase cell start).not) =
            .holds
          ↔ ∀ start ∈ starts, beginningTruth fold ignoreCase cell start = .fails := by simp
        _ ↔ _ := forall₂_congr fun _ _ => beginningTruth_eq_fails_iff
        _ ↔ _ := forall_mem_exists_iff (Option.some_injective String) nonempty

end Truths

end Criterion

/-- A match with at least one beginning on a field of texts makes a criterion, and a server reads
the text of its condition. By whatever fold of characters case is ignored, if it leaves the marks
of patterns alone, every test has a pattern, and the condition holds exactly of a text that begins
with one of the listed ones, or if it is negated with none of them. -/
theorem beginnings_match_literally {field : Field} (texts : field.type = .string)
    {starts : List String} (nonempty : starts ≠ []) (ignoreCase negated : Bool) :
    ∃ criterion formula,
      Criterion.string field (.beginning ignoreCase negated) (starts.map .string) = .ok criterion ∧
      Formula.ofText? criterion.condition.text = some formula ∧
      ∀ fold, KeepsMarks fold → ∀ cell : Option String, ∃ truth,
        formula.truth? (Test.patternTruth? fold field.name cell) = some truth ∧
        (truth = .holds ↔ ∃ text, cell = some text ∧
          if negated then ∀ start ∈ starts, ¬BeginsWith fold ignoreCase start text
          else ∃ start ∈ starts, BeginsWith fold ignoreCase start text) := by
  obtain ⟨criterion, given⟩ :=
    Criterion.exists_beginning texts nonempty ignoreCase negated
  obtain ⟨-, sameField, sameComparison, listed⟩ :=
    (Match.string field (.beginning ignoreCase negated)
      (starts.map .string)).criterion_eq_ok_iff.mp given
  have compares : criterion.comparison = Criterion.beginningComparison ignoreCase negated :=
    sameComparison.trans (StringMatch.comparison_beginning ignoreCase negated)
  refine ⟨criterion, criterion.condition.formula, given, ?_, ?_⟩
  · exact Formula.ofText?_text (criterion.isReadable_beginnings ignoreCase negated compares)
  · intro fold keeps cell
    have name : field.name = criterion.field.name := congrArg Field.name sameField.symm
    rw [name]
    exact ⟨_, Criterion.truth?_beginnings keeps compares listed,
      Criterion.beginningsTruth_eq_holds_iff nonempty negated⟩

instance (fold : Char → Char) (ignoreCase : Bool) (start text : String) :
    Decidable (BeginsWith fold ignoreCase start text) :=
  inferInstanceAs (Decidable (caseFolded fold ignoreCase start <+: caseFolded fold ignoreCase text))

/-- A field for the codes of discounts. -/
def discountField : Field :=
  { name := "discount", type := .string, role := .nullable }

/-- To begin neither with `A_` nor with `50%`, whatever the case, is true of a code in which other
characters stand for the marks; it is true neither of `a_1` nor of an empty cell. -/
theorem marks_in_codes_are_no_wildcards :
    discountField.type = .string ∧ ["A_", "50%"] ≠ [] ∧
      ∃ criterion formula,
        Criterion.string discountField .caseInsensitiveNotStartsWith
          [.string "A_", .string "50%"] = .ok criterion ∧
        Formula.ofText? criterion.condition.text = some formula ∧
        formula.truth? (Test.patternTruth? Char.toLower "discount" (some "ab1")) =
          some .holds ∧
        formula.truth? (Test.patternTruth? Char.toLower "discount" (some "a_1")) ≠
          some .holds ∧
        formula.truth? (Test.patternTruth? Char.toLower "discount" none) ≠ some .holds := by
  obtain ⟨criterion, formula, given, read, known⟩ :=
    @beginnings_match_literally discountField rfl ["A_", "50%"] (by simp) true true
  refine ⟨rfl, by simp, criterion, formula, given, read, ?_, ?_, ?_⟩
  · obtain ⟨truth, evaluated, means⟩ := known _ keepsMarks_toLower (some "ab1")
    have holds : truth = .holds := means.mpr ⟨_, rfl, by decide +kernel⟩
    rw [← holds]
    exact evaluated
  · obtain ⟨truth, evaluated, means⟩ := known _ keepsMarks_toLower (some "a_1")
    intro holds
    obtain ⟨text, cell, begins⟩ := means.mp (Option.some.inj (evaluated.symm.trans holds))
    cases cell
    exact absurd begins (by decide +kernel)
  · obtain ⟨truth, evaluated, means⟩ := known _ keepsMarks_toLower none
    intro holds
    obtain ⟨text, cell, -⟩ := means.mp (Option.some.inj (evaluated.symm.trans holds))
    cases cell

end TableStore
