import TableStore.Proofs.Sql.Condition
import TableStore.Proofs.Value.Order
import TableStore.Table.Basic

/-!
# The truth of conditions

On a row a condition holds, fails or is unknown. A comparison with an empty cell is unknown, and
so is what depends on it: a membership that no equality settles, its negation, and a conjunction
that no part refutes.

A server first reads the constants of a test at the type of the column and refuses a test of a
column that the table does not have, a constant of another type, and texts that are made small
or matched in a column of something else. A row is selected when the conjunction of a
restriction holds; without a restriction every row is.
-/

namespace TableStore.Sql

/-- What a condition can be on a row. -/
inductive Truth where
  | holds
  | fails
  | unknown
deriving DecidableEq, Repr

namespace Truth

/-- The truth of what is known. -/
def ofBool : Bool → Truth
  | true => .holds
  | false => .fails

/-- The truth of a negation. -/
def not : Truth → Truth
  | .holds => .fails
  | .fails => .holds
  | .unknown => .unknown

/-- The truth of two conditions together. -/
def and : Truth → Truth → Truth
  | .fails, _ | _, .fails => .fails
  | .holds, .holds => .holds
  | _, _ => .unknown

/-- The truth of one condition or another. -/
def or : Truth → Truth → Truth
  | .holds, _ | _, .holds => .holds
  | .fails, .fails => .fails
  | _, _ => .unknown

/-- The truth of a conjunction. -/
def all (truths : List Truth) : Truth :=
  truths.foldr and .holds

/-- The truth of an alternative. -/
def any (truths : List Truth) : Truth :=
  truths.foldr or .fails

@[simp]
theorem ofBool_eq_holds_iff {b : Bool} : ofBool b = .holds ↔ b = true := by
  cases b <;> simp [ofBool]

@[simp]
theorem ofBool_eq_fails_iff {b : Bool} : ofBool b = .fails ↔ b = false := by
  cases b <;> simp [ofBool]

@[simp]
theorem not_eq_holds_iff {truth : Truth} : truth.not = .holds ↔ truth = .fails := by
  cases truth <;> simp [not]

@[simp]
theorem and_eq_holds_iff {a b : Truth} : a.and b = .holds ↔ a = .holds ∧ b = .holds := by
  cases a <;> cases b <;> simp [and]

@[simp]
theorem or_eq_holds_iff {a b : Truth} : a.or b = .holds ↔ a = .holds ∨ b = .holds := by
  cases a <;> cases b <;> simp [or]

@[simp]
theorem or_eq_fails_iff {a b : Truth} : a.or b = .fails ↔ a = .fails ∧ b = .fails := by
  cases a <;> cases b <;> simp [or]

@[simp]
theorem all_singleton (truth : Truth) : all [truth] = truth := by
  cases truth <;> rfl

@[simp]
theorem any_singleton (truth : Truth) : any [truth] = truth := by
  cases truth <;> rfl

/-- A conjunction holds when every part does. -/
@[simp]
theorem all_eq_holds_iff {truths : List Truth} :
    all truths = .holds ↔ ∀ truth ∈ truths, truth = .holds := by
  induction truths with
  | nil => simp [all]
  | cons truth truths ih =>
      change truth.and (all truths) = .holds ↔ _
      rw [and_eq_holds_iff, ih, List.forall_mem_cons]

/-- An alternative holds when some part does. -/
@[simp]
theorem any_eq_holds_iff {truths : List Truth} :
    any truths = .holds ↔ ∃ truth ∈ truths, truth = .holds := by
  induction truths with
  | nil => simp [any]
  | cons truth truths ih =>
      change truth.or (any truths) = .holds ↔ _
      rw [or_eq_holds_iff, ih, List.exists_mem_cons_iff]

/-- An alternative fails when every part does. -/
@[simp]
theorem any_eq_fails_iff {truths : List Truth} :
    any truths = .fails ↔ ∀ truth ∈ truths, truth = .fails := by
  induction truths with
  | nil => simp [any]
  | cons truth truths ih =>
      change truth.or (any truths) = .fails ↔ _
      rw [or_eq_fails_iff, ih, List.forall_mem_cons]

end Truth

/-- What a server does with texts: how it makes them small, and which of them match a pattern
with or without regard to case. -/
structure TextRules where
  lower : String → String
  matchesPattern : Bool → String → String → Bool

/-- A row: a value or nothing under the name of each column. -/
abbrev Row := String → Option Value

/-- Whether a row has nothing but values of the type of the column in every column of a
table. -/
def Row.Fits (row : Row) (table : Table) : Prop :=
  ∀ field ∈ table.fields, ∀ value ∈ row field.name, value.type = field.type

/-- Whether an operator accepts the order of its two sides. -/
def Operator.accepts : Operator → Ordering → Bool
  | .equal, ordering => ordering.isEq
  | .greater, ordering => ordering.isGT
  | .greaterOrEqual, ordering => ordering.isGE
  | .less, ordering => ordering.isLT
  | .lessOrEqual, ordering => ordering.isLE

/-- The truth of a comparison of two cells. -/
def Operator.truth (operator : Operator) : Option Value → Option Value → Truth
  | some a, some b => .ofBool (operator.accepts (a.order b))
  | _, _ => .unknown

/-- The truth of the statement that a cell is level with one of several constants. -/
def membership (cell : Option Value) (constants : List (Option Value)) : Truth :=
  .any (constants.map (Operator.equal.truth cell))

/-- The truth of the statement that the text of a cell matches a pattern. -/
def TextRules.matching (rules : TextRules) (ignoreCase : Bool) (pattern : String) :
    Option Value → Truth
  | some (.string text) => .ofBool (rules.matchesPattern ignoreCase pattern text)
  | _ => .unknown

/-- A value with its text made small; no other value has one. -/
def TextRules.lowerValue (rules : TextRules) : Value → Value
  | .string text => .string (rules.lower text)
  | value => value

/-- A value as it is compared, its text made small if case is ignored. -/
def TextRules.folded (rules : TextRules) (ignoreCase : Bool) (value : Value) : Value :=
  if ignoreCase then rules.lowerValue value else value

/-- A statement or, if it is negated, its opposite. -/
def Truth.negateIf (negated : Bool) (truth : Truth) : Truth :=
  if negated then truth.not else truth

namespace Test

/-- The truth of a test on the cell of a column of a type, if the server takes the test. -/
def truthOf? (rules : TextRules) (type : ValueType) (cell : Option Value) : Test → Option Truth
  | .isNull _ => some (.ofBool cell.isNone)
  | .isNotNull _ => some (.ofBool cell.isSome)
  | .compare _ operator literal => do
      let constant ← literal.cell? type
      return operator.truth cell constant
  | .between _ lower upper => do
      let lower ← lower.cell? type
      let upper ← upper.cell? type
      return (Operator.greaterOrEqual.truth cell lower).and
        (Operator.lessOrEqual.truth cell upper)
  | .isIn ignoreCase negated _ literals =>
      if ignoreCase ∧ type ≠ .string then none
      else do
        let constants ← literals.mapM (Literal.cell? type)
        let folded := Option.map (rules.folded ignoreCase)
        return .negateIf negated (membership (folded cell) (constants.map folded))
  | .like ignoreCase negated _ pattern =>
      if type ≠ .string then none
      else some (.negateIf negated (rules.matching ignoreCase pattern cell))

/-- The truth of a test on a row of a table, if the server takes the test. -/
def truth? (rules : TextRules) (table : Table) (row : Row) (test : Test) : Option Truth :=
  (table.fieldNamed? test.column).bind fun field =>
    test.truthOf? rules field.type (row test.column)

end Test

namespace Formula

variable (known : Test → Option Truth)

mutual

/-- The truth of a formula by that of its tests, if it is known for each of them. -/
def truth? : Formula → Option Truth
  | .test single => known single
  | .all parts => (truths? parts).map Truth.all
  | .any parts => (truths? parts).map Truth.any

/-- The truth of each of several formulas. -/
def truths? : List Formula → Option (List Truth)
  | [] => some []
  | formula :: formulas => do
      let truth ← truth? formula
      let truths ← truths? formulas
      return truth :: truths

end

end Formula

/-- Whether a server selects a row of a table by the text of a restriction, if it can read the
text and takes its tests. -/
def selects? (rules : TextRules) (table : Table) (row : Row) (text : String) : Option Bool := do
  let tokens ← tokenize text.toList
  let conjuncts ← readAll? readWhere tokens
  let truths ← Formula.truths? (Test.truth? rules table row) conjuncts
  return Truth.all truths = .holds

end TableStore.Sql
