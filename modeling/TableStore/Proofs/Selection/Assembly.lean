import TableStore.Proofs.Table.Lookup
import TableStore.School.Reference
import TableStore.Statement.Rows

/-!
# How selections are put together

A selection is built from a list of criteria at once, or criteria are added one after another to a
selection that is already there. Adding one criterion does what building from the longer list does,
and a list that is refused is refused for the same criterion however it goes on. So every mix of the
two ways gives what building from all the criteria at once gives.
-/

namespace TableStore

/-- Whether a field is one of the fields of a table. -/
def Table.Has (table : Table) (field : Field) : Prop :=
  ∃ own ∈ table.fields, own.Equal field

namespace Selection

variable {table : Table} {criteria : List Criterion} {selection : Selection} {error : Error}

/-- Why criteria are refused by a table: the first of them on a field that the table does not
have. -/
inductive Refused (table : Table) (criteria : List Criterion) : Error → Prop
  | foreign {before after : List Criterion} {criterion : Criterion}
      (parts : criteria = before ++ criterion :: after)
      (own : ∀ earlier ∈ before, table.Has earlier.field) (other : ¬table.Has criterion.field) :
      Refused table criteria (.binding table.qualifiedName criterion.field.name)

/-- The selections that are put together from criteria for a table, in one way or another. -/
inductive Assembles (table : Table) : List Criterion → Selection → Prop
  | all : Assembles table [] (all table)
  | build {criteria : List Criterion} {selection : Selection}
      (built : build table criteria = .ok selection) : Assembles table criteria selection
  | and {criteria : List Criterion} {selection longer : Selection} {criterion : Criterion}
      (assembled : Assembles table criteria selection)
      (added : selection.and criterion = .ok longer) :
      Assembles table (criteria ++ [criterion]) longer

/-! ## Building at once -/

/-- A selection that is built has the table and the criteria that were given. -/
theorem build_eq_ok_iff :
    build table criteria = .ok selection ↔
      selection.table = table ∧ selection.criteria = criteria := by
  unfold build
  constructor
  · intro built
    split at built
    · cases built
      exact ⟨rfl, rfl⟩
    · cases built
  · rcases selection with ⟨own, chosen, bound⟩
    rintro ⟨rfl, rfl⟩
    split
    · rfl
    · rename_i criterion found
      have foreign := List.find?_some found
      have member := List.mem_of_find?_eq_some found
      simp [bound criterion member] at foreign

theorem build_eq_error_iff_foreign? :
    build table criteria = .error error ↔
      ∃ criterion, foreign? table criteria = some criterion ∧
        error = foreignError table criterion := by
  unfold build
  split
  · rename_i none_foreign
    simp [none_foreign]
  · rename_i criterion found
    simp [found, eq_comm]

/-- Criteria are refused for the first of them on a field that the table does not have. -/
theorem build_eq_error_iff :
    build table criteria = .error error ↔ Refused table criteria error := by
  rw [build_eq_error_iff_foreign?]
  constructor
  · rintro ⟨criterion, found, rfl⟩
    rcases List.find?_eq_some_iff_append.mp found with ⟨foreign, before, after, parts, own⟩
    apply Refused.foreign parts
    · intro earlier member
      exact Table.contains_iff.mp (by simpa using own earlier member)
    · intro has
      simp [Table.contains_iff.mpr has] at foreign
  · rintro ⟨parts, own, other⟩
    rename_i before after criterion
    refine ⟨criterion, List.find?_eq_some_iff_append.mpr ⟨?_, before, after, parts, ?_⟩, rfl⟩
    · simpa using mt Table.contains_iff.mp other
    · intro earlier member
      simpa using Table.contains_iff.mpr (own earlier member)

/-- A selection is built exactly when the table has the field of every criterion. -/
theorem exists_build_iff :
    (∃ selection, build table criteria = .ok selection) ↔
      ∀ criterion ∈ criteria, table.Has criterion.field := by
  constructor
  · rintro ⟨selection, built⟩ criterion member
    rcases build_eq_ok_iff.mp built with ⟨rfl, rfl⟩
    exact Table.contains_iff.mp (selection.bound criterion member)
  · intro own
    have bound : ∀ criterion ∈ criteria, table.contains criterion.field = true :=
      fun criterion member => Table.contains_iff.mpr (own criterion member)
    exact ⟨⟨table, criteria, bound⟩, build_eq_ok_iff.mpr ⟨rfl, rfl⟩⟩

/-- Criteria that are refused are refused however the list goes on. -/
theorem build_append_eq_error (refused : build table criteria = .error error)
    (more : List Criterion) : build table (criteria ++ more) = .error error := by
  rw [build_eq_error_iff] at refused ⊢
  rcases refused with ⟨rfl, own, other⟩
  rw [List.append_assoc, List.cons_append]
  exact .foreign rfl own other

/-! ## Adding one after another -/

/-- Adding a criterion is building with this criterion at the end. -/
theorem and_eq_build (selection : Selection) (criterion : Criterion) :
    selection.and criterion = build selection.table (selection.criteria ++ [criterion]) := by
  unfold and
  split
  · rename_i contained
    exact (build_eq_ok_iff.mpr ⟨rfl, rfl⟩).symm
  · rename_i foreign
    symm
    apply build_eq_error_iff.mpr
    apply Refused.foreign rfl
    · intro earlier member
      exact Table.contains_iff.mp (selection.bound earlier member)
    · exact mt Table.contains_iff.mpr foreign

/-- Adding criteria one after another is building with all of them at the end. -/
theorem foldlM_and (selection : Selection) (criteria : List Criterion) :
    criteria.foldlM and selection = build selection.table (selection.criteria ++ criteria) := by
  induction criteria generalizing selection with
  | nil =>
      rw [List.append_nil, build_eq_ok_iff.mpr ⟨rfl, rfl⟩]
      rfl
  | cons criterion rest ih =>
      rw [List.foldlM_cons, and_eq_build, List.append_cons selection.criteria criterion rest]
      cases longer : build selection.table (selection.criteria ++ [criterion]) with
      | error error => exact (build_append_eq_error longer rest).symm
      | ok further =>
          rcases build_eq_ok_iff.mp longer with ⟨sameTable, extended⟩
          rw [← extended, ← sameTable]
          exact ih further

/-- However a selection is put together, it is what building from the same criteria gives. -/
theorem assembles_iff :
    Assembles table criteria selection ↔ build table criteria = .ok selection := by
  constructor
  · intro assembled
    induction assembled with
    | all => exact build_eq_ok_iff.mpr ⟨rfl, rfl⟩
    | build built => exact built
    | and assembled added ih =>
        rcases build_eq_ok_iff.mp ih with ⟨rfl, rfl⟩
        rwa [and_eq_build] at added
  · exact .build

/-- Building from criteria at once and adding them one after another to the selection of all rows
give the same: a selection with these criteria in their order, and so with the same statements, or
the error of the first criterion on a field that the table does not have. There is a selection
exactly when the table has all the fields, and whichever way one was put together, it has only
criteria on fields of its table. -/
theorem ways_to_select_agree (table : Table) (criteria : List Criterion) :
    build table criteria = criteria.foldlM and (all table) ∧
      ((∃ selection, build table criteria = .ok selection) ↔
        ∀ criterion ∈ criteria, table.Has criterion.field) ∧
      (∀ error, build table criteria = .error error ↔ Refused table criteria error) ∧
      (∀ one other, build table criteria = .ok one →
        criteria.foldlM and (all table) = .ok other →
        one.criteria = criteria ∧ other.criteria = criteria ∧ ∀ environment,
          (one.counting environment).text = (other.counting environment).text ∧
          (one.reading environment).text = (other.reading environment).text ∧
          (one.deletion environment).text = (other.deletion environment).text) ∧
      ∀ selection, Assembles table criteria selection →
        selection.table = table ∧ selection.criteria = criteria ∧
          ∀ criterion ∈ selection.criteria, table.Has criterion.field := by
  have agree : build table criteria = criteria.foldlM and (all table) :=
    (foldlM_and (all table) criteria).symm
  refine ⟨agree, exists_build_iff, fun error => build_eq_error_iff, ?_, ?_⟩
  · intro one other built folded
    rw [← agree, built] at folded
    cases folded
    have given := (build_eq_ok_iff.mp built).2
    exact ⟨given, given, fun environment => ⟨rfl, rfl, rfl⟩⟩
  · intro selection assembled
    have built := assembles_iff.mp assembled
    rcases build_eq_ok_iff.mp built with ⟨sameTable, given⟩
    refine ⟨sameTable, given, ?_⟩
    rw [given]
    exact exists_build_iff.mp ⟨selection, built⟩

/-- The state of a school, which is declared like the state of a postal code. -/
def schoolState : Field :=
  (School.school.fieldNamed? "state").get (by decide +kernel)

/-- The city of a school, which is described in another way than the city of a postal code. -/
def schoolCity : Field :=
  (School.school.fieldNamed? "city").get (by decide +kernel)

/-- Postal codes are selected by a field that is declared like theirs in either way. They are not
selected by one that only has the name of theirs, and the criterion that is named is the first such
one. -/
theorem postal_codes_by_fields_of_schools :
    (∃ one other,
      build School.zipCode [.isNotNull schoolState] = .ok one ∧
      [Criterion.isNotNull schoolState].foldlM and (all School.zipCode) = .ok other ∧
      (one.reading .testing).text = (other.reading .testing).text ∧
      (other.counting .testing).text =
        "SELECT COUNT(*) FROM \"main_t\".\"zip_code\" WHERE \"state\" IS NOT NULL") ∧
    [Criterion.isNotNull schoolState, .isNull schoolCity, .isNull (shareFrom true)].foldlM and
      (all School.zipCode) = .error (.binding "main.zip_code" "city") ∧
    Refused School.zipCode [.isNotNull schoolState, .isNull schoolCity, .isNull (shareFrom true)]
      (.binding "main.zip_code" "city") := by
  constructor
  · rcases ways_to_select_agree School.zipCode [.isNotNull schoolState] with ⟨agree, -, -, alike, -⟩
    have built : ∃ one, build School.zipCode [.isNotNull schoolState] = .ok one := ⟨_, rfl⟩
    rcases built with ⟨one, built⟩
    have folded := agree.symm.trans built
    have texts := (alike one one built folded).2.2 .testing
    refine ⟨one, one, built, folded, texts.2.1, ?_⟩
    cases built
    decide +kernel
  · rcases ways_to_select_agree School.zipCode
      [.isNotNull schoolState, .isNull schoolCity, .isNull (shareFrom true)] with
      ⟨agree, -, refused, -⟩
    have error : build School.zipCode
        [.isNotNull schoolState, .isNull schoolCity, .isNull (shareFrom true)] =
          .error (.binding "main.zip_code" "city") := rfl
    exact ⟨agree.symm.trans error, (refused _).mp error⟩

end Selection

end TableStore
