import TableStore.Proofs.Criterion.Match
import TableStore.School.Reference

/-!
# What selections mean

A server that reads the restriction of a selection selects a row exactly when the row has what
every match says from which the criteria were built. What is selected depends only on which
criteria there are, and more criteria never select more.
-/

namespace TableStore

open Sql

namespace Selection

/-- A server reads the restriction of a selection, and on a fitting row it holds when every
criterion has what it asks of its cell. -/
theorem selects?_where (rules : TextRules) (selection : Selection) {row : Row}
    (fits : row.Fits selection.table) :
    ∃ selected, selects? rules selection.table row (whereText selection.conditions) =
        some selected ∧
      (selected = true ↔ ∀ criterion ∈ selection.criteria,
        criterion.comparison.Asks rules criterion.values (row criterion.field.name)) := by
  have means : ∀ criterion ∈ selection.criteria,
      criterion.condition.formula.Means rules selection.table row
        (criterion.comparison.Asks rules criterion.values (row criterion.field.name)) :=
    fun criterion member => criterion.means_condition fits (selection.bound criterion member)
  obtain ⟨truths, taken, every, -⟩ := exists_truths means
  refine ⟨decide (Truth.all truths = .holds), ?_, ?_⟩
  · have tokens : tokenize (whereText selection.conditions).toList =
        some (whereTokens selection.conditions) := spells_where selection.conditions
    have conjuncts : selection.conjuncts =
        selection.criteria.map fun criterion => criterion.condition.formula := by
      rw [conjuncts, conditions, List.map_map]
      rfl
    simp only [selects?, tokens, selection.readAll?_whereTokens, conjuncts, taken,
      Option.bind_eq_bind, Option.bind_some, pure]
  · rw [decide_eq_true_iff]
    exact every

/-- The criteria of a selection are built from matches. -/
theorem exists_matches (selection : Selection) :
    ∃ asked, List.Forall₂ Match.Builds asked selection.criteria := by
  choose source builds using Criterion.exists_match
  refine ⟨selection.criteria.map source, List.forall₂_map_left_iff.mpr ?_⟩
  exact List.forall₂_same.mpr fun criterion _ => builds criterion

/-- The criteria of matches ask of a row what the matches say. -/
theorem forall_asks_iff {rules : TextRules} {row : Row} {asked : List Match}
    {criteria : List Criterion} (built : List.Forall₂ Match.Builds asked criteria)
    (typed : ∀ criterion ∈ criteria, ∀ value ∈ row criterion.field.name,
      value.type = criterion.field.type) :
    (∀ criterion ∈ criteria,
        criterion.comparison.Asks rules criterion.values (row criterion.field.name)) ↔
      ∀ m ∈ asked, m.Holds rules row := by
  induction built with
  | nil => simp
  | cons builds _ ih =>
      rw [List.forall_mem_cons] at typed
      rw [List.forall_mem_cons, List.forall_mem_cons, builds.asks_iff typed.1, ih typed.2]

/-- On a fitting row a server selects by the restriction of a selection, whatever its rules for
texts. Some matches build the criteria, and any such matches say when the row is selected: when
it has all that they say. Nothing but the set of the criteria matters, so their order and
repetitions do not, and a row that more criteria select is selected by fewer. -/
theorem selects_what_matches_say (rules : TextRules) (selection : Selection) {row : Row}
    (fits : row.Fits selection.table) :
    ∃ selected, selects? rules selection.table row (whereText selection.conditions) =
        some selected ∧
      (∃ asked, List.Forall₂ Match.Builds asked selection.criteria) ∧
      (∀ asked, List.Forall₂ Match.Builds asked selection.criteria →
        (selected = true ↔ ∀ m ∈ asked, m.Holds rules row)) ∧
      (∀ other : Selection, other.table = selection.table →
        (∀ criterion, criterion ∈ other.criteria ↔ criterion ∈ selection.criteria) →
        selects? rules other.table row (whereText other.conditions) = some selected) ∧
      ∀ other : Selection, other.table = selection.table →
        (∀ criterion ∈ selection.criteria, criterion ∈ other.criteria) →
        selects? rules other.table row (whereText other.conditions) = some true →
        selected = true := by
  obtain ⟨selected, taken, means⟩ := selects?_where rules selection fits
  refine ⟨selected, taken, selection.exists_matches, ?_, ?_, ?_⟩
  · intro asked built
    have typed : ∀ criterion ∈ selection.criteria, ∀ value ∈ row criterion.field.name,
        value.type = criterion.field.type := by
      intro criterion member value cell
      obtain ⟨own, found, sameType⟩ :=
        selection.table.fieldNamed?_of_contains (selection.bound criterion member)
      exact (fits.typed found value cell).trans sameType
    exact means.trans (forall_asks_iff built typed)
  · intro other sameTable sameCriteria
    obtain ⟨otherSelected, otherTaken, otherMeans⟩ := selects?_where rules other (sameTable ▸ fits)
    have same : otherSelected = selected := by
      simp only [Bool.eq_iff_iff, means, otherMeans, sameCriteria]
    rw [otherTaken, same]
  · intro other sameTable included otherTaken
    obtain ⟨otherSelected, again, otherMeans⟩ := selects?_where rules other (sameTable ▸ fits)
    cases otherTaken.symm.trans again
    exact means.mpr fun criterion member => otherMeans.mp rfl criterion (included criterion member)

end Selection

/-- Rules for texts of ASCII letters: a pattern of a beginning matches what begins so. -/
def asciiRules : TextRules where
  lower text := String.ofList (text.toList.map Char.toLower)
  matchesPattern _ pattern text :=
    ((beginningOf? pattern.toList).map fun start => start.isPrefixOf text.toList).getD false

/-- The category of a kind of holds. -/
def categoryField : Field :=
  (School.holdType.fieldNamed? "hold_category").get (by decide +kernel)

/-- The number of times that a hold is displayed. -/
def displaysField : Field :=
  (School.holdType.fieldNamed? "times_to_display").get (by decide +kernel)

theorem name_categoryField : categoryField.name = "hold_category" := by
  decide +kernel

theorem name_displaysField : displaysField.name = "times_to_display" := by
  decide +kernel

/-- Kinds of holds that are not disciplinary and are displayed one to three times. -/
def briefHolds : Selection where
  table := School.holdType
  criteria := [
    ⟨categoryField, .isNotIn true, [.string "discipline"], by decide +kernel, by decide +kernel⟩,
    ⟨displaysField, .between false true, [.integer 0, .integer 3], by decide +kernel,
      by decide +kernel⟩]
  bound := by decide +kernel

/-- The matches of this selection. -/
def briefMatches : List Match :=
  [.string categoryField .caseInsensitiveNotIn [.string "discipline"],
    .numeric displaysField .betweenExcludeLowerBound [.integer 0, .integer 3]]

/-- A kind of holds with a category and a number of displays. -/
def holdRow (category : String) (displays : Option Int32) : Row := fun column =>
  if column = "hold_category" then some (.string category)
  else if column = "times_to_display" then displays.map .integer
  else none

/-- Such a row fits the table of the kinds of holds. -/
theorem fits_holdRow (category : String) (displays : Option Int32) :
    (holdRow category displays).Fits School.holdType := by
  have categories : ∀ field ∈ School.holdType.fields, field.name = "hold_category" →
      field.type = .string := by decide +kernel
  have numbers : ∀ field ∈ School.holdType.fields, field.name = "times_to_display" →
      field.type = .integer := by decide +kernel
  intro field member value cell
  unfold holdRow at cell
  split at cell
  · rename_i name
    cases cell
    exact (categories field member name).symm
  · split at cell
    · rename_i name
      obtain ⟨number, -, rfl⟩ := Option.mem_map.mp cell
      exact (numbers field member name).symm
    · cases cell

/-- Such a row has what the matches say when its category is another, whatever the case, and its
number of displays lies in the range. -/
theorem holds_briefMatches_iff {category : String} {displays : Option Int32} :
    (∀ m ∈ briefMatches, m.Holds asciiRules (holdRow category displays)) ↔
      asciiRules.lower category ≠ asciiRules.lower "discipline" ∧
        ∃ number ∈ displays, (Value.integer 0).Before (.integer number) ∧
          (Value.integer number).AtMost (.integer 3) := by
  simp [briefMatches, Match.Holds, StringMatch.Asks, OrderedMatch.Asks, holdRow,
    name_categoryField, name_displaysField]

/-- A kind of holds for finances that is displayed three times is selected. One for discipline is
not, however it is spelled, and neither is one without a number of displays. -/
theorem brief_holds_selected :
    selects? asciiRules School.holdType (holdRow "FINANCE" (some 3))
      (whereText briefHolds.conditions) = some true ∧
    selects? asciiRules School.holdType (holdRow "Discipline" (some 3))
      (whereText briefHolds.conditions) = some false ∧
    selects? asciiRules School.holdType (holdRow "FINANCE" none)
      (whereText briefHolds.conditions) = some false := by
  have built : List.Forall₂ Match.Builds briefMatches briefHolds.criteria :=
    .cons rfl (.cons rfl .nil)
  have selection : ∀ category displays, ∃ selected,
      selects? asciiRules School.holdType (holdRow category displays)
        (whereText briefHolds.conditions) = some selected ∧
      (selected = true ↔ asciiRules.lower category ≠ asciiRules.lower "discipline" ∧
        ∃ number ∈ displays, (Value.integer 0).Before (.integer number) ∧
          (Value.integer number).AtMost (.integer 3)) := by
    intro category displays
    obtain ⟨selected, taken, -, means, -⟩ :=
      Selection.selects_what_matches_say asciiRules briefHolds (fits_holdRow category displays)
    exact ⟨selected, taken, (means briefMatches built).trans holds_briefMatches_iff⟩
  refine ⟨?_, ?_, ?_⟩
  · obtain ⟨selected, taken, means⟩ := selection "FINANCE" (some 3)
    have yes : selected = true :=
      means.mpr ⟨by decide +kernel, 3, rfl, by decide +kernel, by decide +kernel⟩
    rw [taken, yes]
  · obtain ⟨selected, taken, means⟩ := selection "Discipline" (some 3)
    have no : selected = false :=
      Bool.eq_false_iff.mpr fun yes => (means.mp yes).1 (by decide +kernel)
    rw [taken, no]
  · obtain ⟨selected, taken, means⟩ := selection "FINANCE" none
    have no : selected = false := by
      refine Bool.eq_false_iff.mpr fun yes => ?_
      obtain ⟨-, number, found, -⟩ := means.mp yes
      cases found
    rw [taken, no]

end TableStore
