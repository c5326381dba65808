import TableStore.Proofs.Sql.Truth

/-!
# What tests and formulas mean

A test means something when the server takes it and it holds exactly in that case. Comparisons,
ranges and lists have their meaning on cells that are empty or have a value of the type of their
constants. An empty cell has none of these meanings: a comparison with it is unknown, and so are
a membership and its negation.

A conjunction of formulas means all of what they mean, and an alternative some of it.
-/

namespace TableStore.Sql

variable {rules : TextRules} {type : ValueType} {cell : Option Value}

section Kinds

variable {α β γ : Type} {make : β → γ} {c : γ} {items : List α} {P : β → α → Prop}

/-- Something of a kind stands in relation to some item when some item finds it so. -/
theorem exists_mem_exists_iff :
    (∃ x ∈ items, ∃ b, c = make b ∧ P b x) ↔ ∃ b, c = make b ∧ ∃ x ∈ items, P b x := by
  constructor
  · rintro ⟨x, member, b, same, related⟩
    exact ⟨b, same, x, member, related⟩
  · rintro ⟨b, same, x, member, related⟩
    exact ⟨x, member, b, same, related⟩

/-- Something of a kind stands in relation to all of at least one item when every item finds it
so. -/
theorem forall_mem_exists_iff (injective : make.Injective) (nonempty : items ≠ []) :
    (∀ x ∈ items, ∃ b, c = make b ∧ P b x) ↔ ∃ b, c = make b ∧ ∀ x ∈ items, P b x := by
  constructor
  · intro every
    obtain ⟨first, firstMember⟩ := List.exists_mem_of_ne_nil items nonempty
    obtain ⟨b, same, -⟩ := every first firstMember
    refine ⟨b, same, fun x member => ?_⟩
    obtain ⟨other, again, related⟩ := every x member
    cases injective (same.symm.trans again)
    exact related
  · rintro ⟨b, same, related⟩ x member
    exact ⟨b, same, related x member⟩

end Kinds

/-- How an operator relates a value to a bound. -/
def Operator.Relates : Operator → Value → Value → Prop
  | .equal, value, bound => value.Level bound
  | .greater, value, bound => bound.Before value
  | .greaterOrEqual, value, bound => bound.AtMost value
  | .less, value, bound => value.Before bound
  | .lessOrEqual, value, bound => value.AtMost bound

theorem Operator.accepts_order_iff (operator : Operator) {value bound : Value}
    (same : value.type = bound.type) :
    operator.accepts (value.order bound) = true ↔ operator.Relates value bound := by
  have swapped := Value.order_swap same.symm
  cases ordered : value.order bound <;> rw [ordered] at swapped <;> cases operator <;>
    simp [accepts, Relates, Value.Level, Value.Before, Value.AtMost, ordered, ← swapped]

/-- A comparison of a cell with a bound of its type holds when the cell has a value that the
operator relates to the bound. -/
theorem Operator.truth_eq_holds_iff (operator : Operator) {bound : Value}
    (typed : ∀ value ∈ cell, value.type = bound.type) :
    operator.truth cell (some bound) = .holds ↔
      ∃ value, cell = some value ∧ operator.Relates value bound := by
  cases cell with
  | none => simp [Operator.truth]
  | some value =>
      have accepts := operator.accepts_order_iff (typed value rfl)
      simp [Operator.truth, accepts]

/-- A comparison fails when the cell has a value that the operator does not relate. -/
theorem Operator.truth_eq_fails_iff (operator : Operator) {bound : Value}
    (typed : ∀ value ∈ cell, value.type = bound.type) :
    operator.truth cell (some bound) = .fails ↔
      ∃ value, cell = some value ∧ ¬operator.Relates value bound := by
  cases cell with
  | none => simp [Operator.truth]
  | some value =>
      have accepts := operator.accepts_order_iff (typed value rfl)
      simp [Operator.truth, ← accepts]

/-- What a server stores of a constant decides as the constant does. -/
theorem Operator.truth_canonical (operator : Operator) (bound : Value) :
    operator.truth cell (some bound.canonical) = operator.truth cell (some bound) := by
  cases cell <;> simp [Operator.truth]

/-- A cell is a member when its value is level with one of the constants. -/
theorem membership_eq_holds_iff {constants : List Value}
    (typed : ∀ value ∈ cell, ∀ constant ∈ constants, value.type = constant.type) :
    membership cell (constants.map some) = .holds ↔
      ∃ value, cell = some value ∧ ∃ constant ∈ constants, value.Level constant := by
  have each := fun constant member => Operator.equal.truth_eq_holds_iff
    fun value found => typed value found constant member
  calc membership cell (constants.map some) = .holds
      ↔ ∃ constant ∈ constants, Operator.equal.truth cell (some constant) = .holds := by
        simp [membership]
    _ ↔ ∃ constant ∈ constants, ∃ value, cell = some value ∧ value.Level constant :=
        exists_congr fun constant => and_congr_right (each constant)
    _ ↔ _ := exists_mem_exists_iff

/-- A cell is no member when its value is level with none of the constants. -/
theorem membership_eq_fails_iff {constants : List Value} (nonempty : constants ≠ [])
    (typed : ∀ value ∈ cell, ∀ constant ∈ constants, value.type = constant.type) :
    membership cell (constants.map some) = .fails ↔
      ∃ value, cell = some value ∧ ∀ constant ∈ constants, ¬value.Level constant := by
  have each := fun constant member => Operator.equal.truth_eq_fails_iff
    fun value found => typed value found constant member
  calc membership cell (constants.map some) = .fails
      ↔ ∀ constant ∈ constants, Operator.equal.truth cell (some constant) = .fails := by
        simp [membership]
    _ ↔ ∀ constant ∈ constants, ∃ value, cell = some value ∧ ¬value.Level constant :=
        forall₂_congr each
    _ ↔ _ := forall_mem_exists_iff (Option.some_injective Value) nonempty

/-- A cell that has a value of each of two kinds has one of both kinds. -/
theorem exists_and_exists_iff {P Q : Value → Prop} :
    ((∃ value, cell = some value ∧ P value) ∧ ∃ value, cell = some value ∧ Q value) ↔
      ∃ value, cell = some value ∧ P value ∧ Q value := by
  cases cell <;> simp

/-- Whether a server takes a test of a column and it holds on the cell in a given case. -/
def Test.Means (rules : TextRules) (type : ValueType) (cell : Option Value) (test : Test)
    (asked : Prop) : Prop :=
  ∃ truth, test.truthOf? rules type cell = some truth ∧ (truth = .holds ↔ asked)

/-- A constant of a type fills a cell with what a server stores of it. -/
theorem cell?_literal_canonical {value : Value} (typed : value.type = type) :
    value.literal.canonical.cell? type = some (some value.canonical) := by
  rw [Literal.cell?, if_neg, ← typed, Value.value?_literal_canonical]
  · rfl
  · rw [Value.literal_canonical]
    exact value.canonical.literal_ne_null

section Tests

variable {column : String} (typed : ∀ value ∈ cell, value.type = type)

theorem means_isNull : (Test.isNull column).Means rules type cell (cell = none) :=
  ⟨_, rfl, by simp⟩

theorem means_isNotNull :
    (Test.isNotNull column).Means rules type cell (∃ value, cell = some value) :=
  ⟨_, rfl, by simp [Option.isSome_iff_exists]⟩

include typed in
/-- A comparison asks for a value that the operator relates to the bound. -/
theorem means_compare (operator : Operator) {bound : Value} (boundTyped : bound.type = type) :
    (Test.compare column operator bound.literal).canonical.Means rules type cell
      (∃ value, cell = some value ∧ operator.Relates value bound) := by
  refine ⟨operator.truth cell (some bound.canonical), ?_, ?_⟩
  · simp [Test.canonical, Test.truthOf?, cell?_literal_canonical boundTyped]
  · rw [operator.truth_canonical]
    exact operator.truth_eq_holds_iff fun value found => (typed value found).trans boundTyped.symm

include typed in
/-- A range asks for a value between its bounds, both of them included. -/
theorem means_between {lower upper : Value} (lowerTyped : lower.type = type)
    (upperTyped : upper.type = type) :
    (Test.between column lower.literal upper.literal).canonical.Means rules type cell
      (∃ value, cell = some value ∧ lower.AtMost value ∧ value.AtMost upper) := by
  refine ⟨(Operator.greaterOrEqual.truth cell (some lower.canonical)).and
    (Operator.lessOrEqual.truth cell (some upper.canonical)), ?_, ?_⟩
  · simp [Test.canonical, Test.truthOf?, cell?_literal_canonical lowerTyped,
      cell?_literal_canonical upperTyped]
  · rw [Operator.truth_canonical, Operator.truth_canonical, Truth.and_eq_holds_iff,
      Operator.truth_eq_holds_iff _ fun value found => (typed value found).trans lowerTyped.symm,
      Operator.truth_eq_holds_iff _ fun value found => (typed value found).trans upperTyped.symm]
    exact exists_and_exists_iff

/-- The constants of a list fill cells with what a server stores of them. -/
theorem mapM_cell?_literals {values : List Value} (listed : ∀ value ∈ values, value.type = type) :
    ((values.map Value.literal).map Literal.canonical).mapM (Literal.cell? type) =
      some (values.map fun value => some value.canonical) := by
  rw [List.map_map]
  exact mapM_map_eq_some fun value member => cell?_literal_canonical (listed value member)

theorem folded_canonical (ignoreCase : Bool) (value : Value) :
    rules.folded ignoreCase value.canonical = (rules.folded ignoreCase value).canonical := by
  cases ignoreCase <;> cases value <;> rfl

theorem type_folded (ignoreCase : Bool) (value : Value) :
    (rules.folded ignoreCase value).type = value.type := by
  cases ignoreCase <;> cases value <;> rfl

theorem membership_canonical (constants : List Value) :
    membership cell (constants.map fun constant => some constant.canonical) =
      membership cell (constants.map some) := by
  simp only [membership, List.map_map]
  exact congrArg _ (List.map_congr_left fun constant _ => Operator.truth_canonical _ constant)

include typed in
/-- A list asks for a value level with some member, or if it is negated for a value level with
none of them; an empty cell has neither. -/
theorem means_isIn (ignoreCase negated : Bool) {values : List Value} (nonempty : values ≠ [])
    (listed : ∀ value ∈ values, value.type = type) (texts : ignoreCase = true → type = .string) :
    (Test.isIn ignoreCase negated column (values.map Value.literal)).canonical.Means rules type
      cell (∃ value, cell = some value ∧
        if negated then ∀ comparand ∈ values,
          ¬(rules.folded ignoreCase value).Level (rules.folded ignoreCase comparand)
        else ∃ comparand ∈ values,
          (rules.folded ignoreCase value).Level (rules.folded ignoreCase comparand)) := by
  let folded := rules.folded ignoreCase
  have foldedTyped : ∀ value ∈ cell.map folded, ∀ constant ∈ values.map folded,
      value.type = constant.type := by
    intro value found constant member
    obtain ⟨inner, innerFound, rfl⟩ := Option.mem_map.mp found
    obtain ⟨comparand, comparandMember, rfl⟩ := List.mem_map.mp member
    rw [type_folded, type_folded, typed inner innerFound, listed comparand comparandMember]
  refine ⟨.negateIf negated (membership (cell.map folded) ((values.map folded).map some)), ?_, ?_⟩
  · have taken : ¬(ignoreCase = true ∧ type ≠ .string) := fun refused =>
      refused.2 (texts refused.1)
    -- A server makes small what it stores of a constant, which is what it stores of the small one.
    have constants : (values.map fun value => some value.canonical).map (Option.map folded) =
        (values.map folded).map fun constant => some constant.canonical := by
      simp [folded, folded_canonical]
    rw [← membership_canonical]
    simp only [Test.canonical, Test.truthOf?, if_neg taken, mapM_cell?_literals listed,
      Option.bind_eq_bind, Option.bind_some, pure, folded, ← constants]
  · cases negated with
    | false =>
        simp only [Truth.negateIf, Bool.false_eq_true, if_false]
        rw [membership_eq_holds_iff foldedTyped]
        cases cell <;> simp [folded]
    | true =>
        simp only [Truth.negateIf, if_true]
        rw [Truth.not_eq_holds_iff, membership_eq_fails_iff (by simpa using nonempty) foldedTyped]
        cases cell <;> simp [folded]

/-- A pattern asks for a text that matches it, or if it is negated for one that does not. -/
theorem means_like (ignoreCase negated : Bool) (pattern : String) (texts : type = .string) :
    (Test.like ignoreCase negated column pattern).canonical.Means rules type cell
      (∃ text, cell = some (.string text) ∧
        rules.matchesPattern ignoreCase pattern text = !negated) := by
  refine ⟨.negateIf negated (rules.matching ignoreCase pattern cell), ?_, ?_⟩
  · simp [Test.truthOf?, texts]
  · unfold TextRules.matching
    split
    · cases negated <;> simp [Truth.negateIf]
    · rename_i noText
      have unknown : Truth.negateIf negated .unknown ≠ .holds := by
        cases negated <;> simp [Truth.negateIf]
      exact iff_of_false unknown fun ⟨text, found, _⟩ => noText text found

end Tests

/-- Whether a server takes a formula and it holds on a row in a given case. -/
def Formula.Means (rules : TextRules) (table : Table) (row : Row) (formula : Formula)
    (asked : Prop) : Prop :=
  ∃ truth, formula.truth? (Test.truth? rules table row) = some truth ∧ (truth = .holds ↔ asked)

section Formulas

variable {table : Table} {row : Row}

theorem Formula.Means.congr {formula : Formula} {asked same : Prop}
    (means : formula.Means rules table row asked) (iff : asked ↔ same) :
    formula.Means rules table row same := by
  obtain ⟨truth, taken, holds⟩ := means
  exact ⟨truth, taken, holds.trans iff⟩

theorem column_canonical (test : Test) : test.canonical.column = test.column := by
  cases test <;> rfl

theorem Test.Means.formula {test : Test} {field : Field} {asked : Prop}
    (found : table.fieldNamed? test.column = some field)
    (means : test.canonical.Means rules field.type (row test.column) asked) :
    (Formula.test test.canonical).Means rules table row asked := by
  obtain ⟨truth, taken, holds⟩ := means
  refine ⟨truth, ?_, holds⟩
  rw [Formula.truth?, Test.truth?, column_canonical, found]
  exact taken

/-- The truths of several formulas: they all hold when each has what it asks, and some holds
when one has. -/
theorem exists_truths {α : Type} {items : List α} {part : α → Formula} {asked : α → Prop}
    (means : ∀ x ∈ items, (part x).Means rules table row (asked x)) :
    ∃ truths, Formula.truths? (Test.truth? rules table row) (items.map part) = some truths ∧
      (Truth.all truths = .holds ↔ ∀ x ∈ items, asked x) ∧
      (Truth.any truths = .holds ↔ ∃ x ∈ items, asked x) := by
  induction items with
  | nil => exact ⟨[], rfl, by simp, by simp⟩
  | cons x items ih =>
      obtain ⟨truth, taken, holds⟩ := means x List.mem_cons_self
      obtain ⟨truths, rest, every, one⟩ :=
        ih fun y member => means y (List.mem_cons_of_mem x member)
      rw [Truth.all_eq_holds_iff] at every
      rw [Truth.any_eq_holds_iff] at one
      refine ⟨truth :: truths, ?_, ?_, ?_⟩
      · rw [List.map_cons, Formula.truths?, taken, rest]
        rfl
      · rw [Truth.all_eq_holds_iff, List.forall_mem_cons, List.forall_mem_cons, holds, every]
      · rw [Truth.any_eq_holds_iff, List.exists_mem_cons_iff, List.exists_mem_cons_iff, holds, one]

theorem means_all {α : Type} {items : List α} {part : α → Formula} {asked : α → Prop}
    (means : ∀ x ∈ items, (part x).Means rules table row (asked x)) :
    (Formula.all (items.map part)).Means rules table row (∀ x ∈ items, asked x) := by
  obtain ⟨truths, taken, every, -⟩ := exists_truths means
  exact ⟨Truth.all truths, by rw [Formula.truth?, taken]; rfl, every⟩

theorem means_any {α : Type} {items : List α} {part : α → Formula} {asked : α → Prop}
    (means : ∀ x ∈ items, (part x).Means rules table row (asked x)) :
    (Formula.any (items.map part)).Means rules table row (∃ x ∈ items, asked x) := by
  obtain ⟨truths, taken, -, one⟩ := exists_truths means
  exact ⟨Truth.any truths, by rw [Formula.truth?, taken]; rfl, one⟩

end Formulas

end TableStore.Sql
