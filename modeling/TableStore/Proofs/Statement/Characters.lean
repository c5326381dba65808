import TableStore.Proofs.Criterion.Constants
import TableStore.Proofs.Statement.Place
import TableStore.School.Reference

/-!
# The characters of a statement

Names, marks, numbers, bytes, dates and times are written in printable characters of ASCII. So any
other character of a statement about rows comes from a text that was given as a value, and every
such character of a given text is in the statement, whichever way it takes: as a value of a record,
as a new value of an update, as a comparand or as a beginning.

The null character is one of them. A server has no text with it, and what is sent ends there, but
every text is taken for one that can be stored.
-/

namespace TableStore

open Binary Calendar Decimal Sql

namespace Sql

/-- Whether a character is one of those that statements are made of, apart from the texts that are
given. -/
def isPrintable (c : Char) : Bool :=
  32 ≤ c.toNat && c.toNat < 127

/-- The characters of a text that are not printable, in order. -/
def unprintable (text : List Char) : List Char :=
  text.filter fun c => !isPrintable c

@[simp]
theorem unprintable_append (first second : List Char) :
    unprintable (first ++ second) = unprintable first ++ unprintable second :=
  List.filter_append ..

@[simp]
theorem unprintable_flatMap {α : Type} (items : List α) (text : α → List Char) :
    unprintable (items.flatMap text) = items.flatMap fun item => unprintable (text item) :=
  List.filter_flatMap ..

theorem unprintable_eq_nil {text : List Char} (printable : text.all isPrintable = true) :
    unprintable text = [] := by
  simpa [unprintable] using printable

theorem unprintable_cons {c : Char} (printable : isPrintable c = true) (text : List Char) :
    unprintable (c :: text) = unprintable text := by
  simp [unprintable, printable]

theorem isPrintable_of_isDigit {c : Char} (digit : c.isDigit = true) : isPrintable c = true := by
  simp only [Char.isDigit, ge_iff_le, Bool.and_eq_true, decide_eq_true_eq, UInt32.le_iff_toNat_le]
    at digit
  simp only [isPrintable, Char.toNat, Bool.and_eq_true, decide_eq_true_eq]
  exact ⟨digit.1.trans' (by decide), digit.2.trans_lt (by decide)⟩

theorem isPrintable_of_isLower {c : Char} (lower : c.isLower = true) : isPrintable c = true := by
  obtain ⟨least, greatest⟩ := (Name.isStart_iff c).mp lower
  rw [Char.le_def, UInt32.le_iff_toNat_le] at least greatest
  simp only [isPrintable, Char.toNat, Bool.and_eq_true, decide_eq_true_eq]
  exact ⟨least.trans' (by decide), greatest.trans_lt (by decide)⟩

theorem all_isPrintable_of_isDigit {text : List Char} (digits : ∀ c ∈ text, c.isDigit = true) :
    text.all isPrintable = true :=
  List.all_eq_true.mpr fun c member => isPrintable_of_isDigit (digits c member)

@[simp]
theorem all_isPrintable_padded (width n : Nat) : (padded width n).all isPrintable = true :=
  all_isPrintable_of_isDigit fun _ => isDigit_of_mem_padded

theorem all_isPrintable_integerText (n : Int) :
    (integerText n).toList.all isPrintable = true := by
  have number : (digits n.natAbs).all isPrintable = true :=
    all_isPrintable_of_isDigit fun _ => isDigit_of_mem_digits
  rw [integerText, String.toList_ofList, signed]
  split
  · rw [List.all_cons, number]
    rfl
  · exact number

theorem all_isPrintable_numberText {format : Format} (x : Number format) :
    (numberText x).toList.all isPrintable = true := by
  unfold numberText Number.textNaming
  split
  · decide
  split
  · split <;> decide
  · rw [String.toList_ofList, List.all_eq_true]
    intro c member
    rcases mem_positional member with digit | rfl | rfl
    · exact isPrintable_of_isDigit digit
    · decide
    · decide

theorem all_isPrintable_bytes (bytes : List UInt8) :
    (bytes.flatMap Hex.ofByte).all isPrintable = true := by
  have digits : ∀ n : Fin 16, isPrintable (Nat.digitChar n) = true := by decide
  rw [List.all_eq_true]
  intro c member
  obtain ⟨byte, -, digit⟩ := List.mem_flatMap.mp member
  obtain ⟨n, small, rfl⟩ := Hex.mem_ofByte digit
  exact digits ⟨n, small⟩

theorem all_isPrintable_date (day : Date) : day.text.all isPrintable = true := by
  have year : (Date.yearText day.year).all isPrintable = true := by
    unfold Date.yearText
    split
    · exact all_isPrintable_padded 4 _
    · split <;> simp [show isPrintable '-' = true from rfl, show isPrintable '+' = true from rfl]
  simp [Date.text, year, show isPrintable '-' = true from rfl]

theorem all_isPrintable_microText (clock : Time) : clock.microText.all isPrintable = true := by
  simp [Time.microText, Time.clockText, show isPrintable ':' = true from rfl,
    show isPrintable '.' = true from rfl]

/-- A literal that gives no text is printable. -/
theorem all_isPrintable_literal {literal : Literal} (noText : ∀ content, literal ≠ .string content) :
    literal.text.toList.all isPrintable = true := by
  cases literal with
  | null => decide
  | string content => exact absurd rfl (noText content)
  | boolean truth => cases truth <;> decide
  | integer n => exact all_isPrintable_integerText n
  | real x | double x =>
      simp only [Literal.text, String.toList_append, List.all_append,
        all_isPrintable_numberText x]
      decide
  | bytes content =>
      simp only [Literal.text, String.toList_append, String.toList_ofList, List.all_append,
        all_isPrintable_bytes content]
      decide
  | date day =>
      simp only [Literal.text, String.toList_append, String.toList_ofList, List.all_append,
        all_isPrintable_date day]
      decide
  | time clock =>
      simp only [Literal.text, String.toList_append, String.toList_ofList, List.all_append,
        all_isPrintable_microText clock]
      decide
  | timestamp day clock =>
      simp only [Literal.text, String.toList_append, String.toList_ofList, List.all_append,
        all_isPrintable_date day, all_isPrintable_microText clock]
      decide

theorem all_isPrintable_of_isValid {name : String} (valid : Name.isValid name = true) :
    name.toList.all isPrintable = true := by
  have part : ∀ c, Name.isPart c = true → isPrintable c = true := by
    intro c named
    simp only [Name.isPart, Bool.or_eq_true, beq_iff_eq] at named
    rcases named with (lower | digit) | rfl
    · exact isPrintable_of_isLower lower
    · exact isPrintable_of_isDigit digit
    · decide
  unfold Name.isValid at valid
  split at valid
  · cases valid
  · rename_i c rest characters
    simp only [Bool.and_eq_true] at valid
    rw [characters, List.all_cons, Bool.and_eq_true, List.all_eq_true]
    exact ⟨isPrintable_of_isLower valid.1.1,
      fun d member => part d (List.all_eq_true.mp valid.2 d member)⟩

/-! ## Given texts -/

/-- The text that a literal gives, if it is one. -/
def Literal.characters : Literal → List Char
  | .string content => content.toList
  | _ => []

/-- The texts that a test gives. -/
def Test.characters : Test → List Char
  | .like _ _ _ pattern => pattern.toList
  | test => test.literals.flatMap Literal.characters

/-- The texts that a condition gives. -/
def Condition.characters (condition : Condition) : List Char :=
  condition.tests.flatMap Test.characters

/-- The texts that a statement about rows gives. -/
def RowStatement.characters : RowStatement → List Char
  | .count _ conditions | .delete _ conditions | .select _ _ conditions _ =>
      conditions.flatMap Condition.characters
  | .update _ assignments conditions =>
      assignments.flatMap (fun assignment => assignment.2.characters) ++
        conditions.flatMap Condition.characters
  | .insert _ _ rows => rows.flatten.flatMap Literal.characters

/-! ## What is written around them -/

/-- Doubling a printable character leaves the others. -/
theorem unprintable_double {mark : Char} (printable : isPrintable mark = true)
    (text : List Char) : unprintable (double mark text) = unprintable text := by
  induction text with
  | nil => rfl
  | cons c text ih =>
      rw [double]
      split
      · rename_i same
        rw [same, unprintable_cons printable, unprintable_cons printable,
          unprintable_cons printable, ih]
      · cases other : isPrintable c with
        | true => rw [unprintable_cons other, unprintable_cons other, ih]
        | false => simpa [unprintable, other] using ih

theorem unprintable_quoteString (content : String) :
    unprintable (quoteString content).toList = unprintable content.toList := by
  have closing : unprintable ['\''] = [] := rfl
  rw [toList_quoteString, stringChars, unprintable_cons rfl, unprintable_cons rfl,
    unprintable_append, unprintable_double rfl, unprintable_double rfl,
    closing, List.append_nil]

theorem unprintable_quoteIdentifier (name : String) :
    unprintable (quoteIdentifier name).toList = unprintable name.toList := by
  have closing : unprintable ['"'] = [] := rfl
  rw [toList_quoteIdentifier, identifierChars, unprintable_cons rfl, unprintable_append,
    unprintable_double rfl, closing, List.append_nil]

/-- Printable separators leave what is not printable in the pieces. -/
theorem unprintable_intercalate {separator : String}
    (printable : separator.toList.all isPrintable = true) {α : Type} (text : α → String)
    (items : List α) :
    unprintable (separator.intercalate (items.map text)).toList =
      items.flatMap fun item => unprintable (text item).toList := by
  rw [String.toList_intercalate, List.map_map]
  induction items with
  | nil => rfl
  | cons item items ih =>
      cases items with
      | nil => simp
      | cons next items =>
          rw [List.map_cons, List.map_cons, List.intercalate_cons_cons, ← List.map_cons,
            unprintable_append, unprintable_append, ih, unprintable_eq_nil printable,
            List.append_nil]
          rfl

theorem unprintable_literal (literal : Literal) :
    unprintable literal.text.toList = unprintable literal.characters := by
  cases literal with
  | string content => exact unprintable_quoteString content
  | _ => exact unprintable_eq_nil (all_isPrintable_literal (by simp))

theorem unprintable_lowered (ignoreCase : Bool) (text : String) :
    unprintable (lowered ignoreCase text).toList = unprintable text.toList := by
  cases ignoreCase with
  | false => rfl
  | true =>
      simp (disch := decide) only [lowered, if_true, String.toList_append, unprintable_append,
        unprintable_eq_nil, List.nil_append, List.append_nil]

/-- What is not printable in a test is in its column or in the texts it gives. -/
theorem unprintable_test (test : Test) :
    unprintable test.text.toList =
      unprintable test.column.toList ++ unprintable test.characters := by
  cases test with
  | isNull column | isNotNull column =>
      simp (disch := decide) only [Test.text, Test.column, Test.characters, Test.literals,
        String.toList_append, unprintable_append, unprintable_quoteIdentifier,
        unprintable_eq_nil, List.flatMap_nil]
  | compare column operator literal =>
      have sign : unprintable operator.text.toList = [] := by cases operator <;> rfl
      simp (disch := decide) only [Test.text, Test.column, Test.characters, Test.literals,
        String.toList_append, unprintable_append, unprintable_quoteIdentifier,
        unprintable_eq_nil, sign, unprintable_literal, List.append_nil, List.flatMap_cons,
        List.flatMap_nil]
  | between column lower upper =>
      simp (disch := decide) only [Test.text, Test.column, Test.characters, Test.literals,
        String.toList_append, unprintable_append, unprintable_quoteIdentifier,
        unprintable_eq_nil, unprintable_literal, List.append_nil, List.nil_append,
        List.append_assoc, List.flatMap_cons, List.flatMap_nil]
  | isIn ignoreCase negated column literals =>
      have word : unprintable (if negated then " NOT IN (" else " IN (").toList = [] := by
        cases negated <;> rfl
      simp (disch := decide) only [Test.text, Test.column, Test.characters, Test.literals,
        String.toList_append, unprintable_append, unprintable_quoteIdentifier,
        unprintable_lowered, unprintable_intercalate, unprintable_eq_nil, word,
        unprintable_literal, unprintable_flatMap, List.append_nil]
  | like ignoreCase negated column pattern =>
      have word : unprintable (if negated then " NOT " else " ").toList = [] := by
        cases negated <;> rfl
      have mark : unprintable (if ignoreCase then "ILIKE " else "LIKE ").toList = [] := by
        cases ignoreCase <;> rfl
      simp (disch := decide) only [Test.text, Test.column, Test.characters,
        String.toList_append, unprintable_append, unprintable_quoteIdentifier,
        unprintable_quoteString, unprintable_eq_nil, word, mark, List.append_nil]

/-- What is not printable in a test of a printable column is in the texts it gives. -/
theorem unprintable_test_of_printable {test : Test}
    (printable : test.column.toList.all isPrintable = true) :
    unprintable test.text.toList = unprintable test.characters := by
  rw [unprintable_test, unprintable_eq_nil printable, List.nil_append]

theorem unprintable_condition {condition : Condition}
    (printable : ∀ column ∈ condition.columns, column.toList.all isPrintable = true) :
    unprintable condition.text.toList = unprintable condition.characters := by
  cases condition with
  | test single =>
      rw [Condition.text, Condition.characters, Condition.tests, List.flatMap_singleton,
        unprintable_test_of_printable (printable _ List.mem_cons_self)]
  | all tests | any tests =>
      have each : ∀ test ∈ tests,
          unprintable test.text.toList = unprintable test.characters := fun test member =>
        unprintable_test_of_printable (printable _ (List.mem_map_of_mem member))
      simp (disch := decide) only [Condition.text, Condition.characters, Condition.tests,
        String.toList_append, unprintable_append, unprintable_eq_nil, unprintable_intercalate,
        unprintable_flatMap, List.append_nil, List.nil_append]
      exact List.flatMap_congr each

theorem unprintable_whereText {conditions : List Condition}
    (printable : ∀ column ∈ conditionColumns conditions,
      column.toList.all isPrintable = true) :
    unprintable (whereText conditions).toList =
      unprintable (conditions.flatMap Condition.characters) := by
  have each : ∀ condition ∈ conditions,
      unprintable condition.text.toList = unprintable condition.characters :=
    fun condition member => unprintable_condition fun column named =>
      printable column (List.mem_flatMap.mpr ⟨condition, member, named⟩)
  cases conditions with
  | nil => rfl
  | cons condition conditions =>
      rw [whereText]
      · simp (disch := decide) only [String.toList_append, unprintable_append,
          unprintable_eq_nil, unprintable_intercalate, unprintable_flatMap, List.nil_append]
        exact List.flatMap_congr each
      · simp

theorem unprintable_nameList {names : List String}
    (printable : ∀ name ∈ names, name.toList.all isPrintable = true) :
    unprintable (nameList names).toList = [] := by
  rw [nameList, unprintable_intercalate (by decide), List.flatMap_eq_nil_iff]
  intro name named
  rw [unprintable_quoteIdentifier, unprintable_eq_nil (printable name named)]

theorem unprintable_orderText {names : List String}
    (printable : ∀ name ∈ names, name.toList.all isPrintable = true) :
    unprintable (orderText names).toList = [] := by
  cases names with
  | nil => rfl
  | cons name names =>
      rw [orderText, String.toList_append, unprintable_append, unprintable_nameList printable]
      · rfl
      · simp

theorem unprintable_assignments {assignments : List (String × Literal)}
    (printable : ∀ name ∈ assignments.map Prod.fst, name.toList.all isPrintable = true) :
    unprintable (", ".intercalate (assignments.map assignmentText)).toList =
      unprintable (assignments.flatMap fun assignment => assignment.2.characters) := by
  rw [unprintable_intercalate (by decide), unprintable_flatMap]
  apply List.flatMap_congr
  intro assignment member
  have named := unprintable_eq_nil (printable _ (List.mem_map_of_mem member))
  simp (disch := decide) only [assignmentText, String.toList_append, unprintable_append,
    unprintable_quoteIdentifier, named, unprintable_eq_nil, unprintable_literal,
    List.nil_append]

theorem unprintable_rows (rows : List (List Literal)) :
    unprintable (", ".intercalate (rows.map rowText)).toList =
      unprintable (rows.flatten.flatMap Literal.characters) := by
  have row (literals : List Literal) : unprintable (rowText literals).toList =
      literals.flatMap fun literal => unprintable literal.characters := by
    simp (disch := decide) only [rowText, String.toList_append, unprintable_append,
      unprintable_eq_nil, unprintable_intercalate, unprintable_literal, List.nil_append,
      List.append_nil]
  rw [unprintable_intercalate (by decide), unprintable_flatMap, List.flatten_eq_flatMap,
    List.flatMap_assoc]
  exact List.flatMap_congr fun literals _ => row literals

/-- What is not printable in a statement about rows, all of whose names are, is in the texts that it
gives, in the same order. -/
theorem unprintable_rowStatement {statement : RowStatement}
    (place : unprintable statement.table.text.toList = [])
    (printable : ∀ name ∈ statement.columns, name.toList.all isPrintable = true) :
    unprintable statement.text.toList = unprintable statement.characters := by
  unfold RowStatement.text
  cases statement with
  | count table conditions | delete table conditions =>
      rw [RowStatement.table] at place
      rw [RowStatement.columns] at printable
      simp (disch := decide +kernel) only [RowStatement.characters,
        String.toList_append, unprintable_append, unprintable_eq_nil, place,
        unprintable_whereText printable, List.nil_append]
  | select columns table conditions order =>
      rw [RowStatement.table] at place
      rw [RowStatement.columns, List.forall_mem_append, List.forall_mem_append] at printable
      obtain ⟨selected, tested, ordered⟩ := printable
      simp (disch := decide +kernel) only [RowStatement.characters,
        String.toList_append, unprintable_append, unprintable_eq_nil, place,
        unprintable_nameList selected, unprintable_whereText tested,
        unprintable_orderText ordered, List.nil_append, List.append_nil]
  | update table assignments conditions =>
      rw [RowStatement.table] at place
      rw [RowStatement.columns, List.forall_mem_append] at printable
      obtain ⟨assigned, tested⟩ := printable
      simp (disch := decide +kernel) only [RowStatement.characters,
        String.toList_append, unprintable_append, unprintable_eq_nil, place,
        unprintable_assignments assigned, unprintable_whereText tested, List.nil_append]
  | insert table columns rows =>
      rw [RowStatement.table] at place
      rw [RowStatement.columns] at printable
      simp (disch := decide +kernel) only [RowStatement.characters,
        String.toList_append, unprintable_append, unprintable_eq_nil, place,
        unprintable_nameList printable, unprintable_rows, List.nil_append]

/-- The pattern of a beginning has what is not printable in the beginning. -/
theorem unprintable_beginningWith (text : List Char) :
    unprintable (beginningWith text) = unprintable text := by
  induction text with
  | nil => rfl
  | cons c text ih =>
      rw [beginningWith] at ih ⊢
      rw [List.flatMap_cons, List.append_assoc, unprintable_append, ih]
      split
      · rw [unprintable_cons rfl, ← unprintable_append, List.singleton_append]
      · rw [← unprintable_append, List.singleton_append]

end Sql

/-! ## The texts of values -/

/-- The text of a value, if it is one. -/
def Value.characters (value : Value) : List Char :=
  (value.asString?.getD "").toList

/-- The texts of a record, in the order of the fields. -/
def Record.characters (record : Record) : List Char :=
  record.values.flatMap fun value => value.elim [] Value.characters

/-- The texts that an update gives to fields, in the order of the fields. -/
def Updates.characters (updates : Updates) : List Char :=
  updates.changes.flatMap fun change => change.2.elim [] Value.characters

/-- The texts among the comparands of a selection, in order. -/
def Selection.characters (selection : Selection) : List Char :=
  selection.criteria.flatMap fun criterion => criterion.values.flatMap Value.characters

theorem Value.characters_literal (value : Value) :
    value.literal.characters = value.characters := by
  cases value <;> rfl

/-- A value in the column of its type gives its text. -/
theorem Field.characters_literal {field : Field} {value : Option Value}
    (typed : ∀ v ∈ value, v.type = field.type) :
    (field.literal value).characters = value.elim [] Value.characters := by
  cases value with
  | none => rfl
  | some v => rw [literal, if_pos (typed v rfl), v.characters_literal, Option.elim_some]

namespace Criterion

variable (criterion : Criterion)

/-- Patterns give the beginnings that they are made of. -/
theorem unprintable_beginningTests (ignoreCase negated : Bool) (values : List Value) :
    unprintable ((criterion.beginningTests ignoreCase negated values).flatMap Test.characters) =
      unprintable (values.flatMap Value.characters) := by
  rw [beginningTests, unprintable_flatMap, unprintable_flatMap, List.flatMap_map]
  apply List.flatMap_congr
  intro value _
  rw [Test.characters, Value.pattern, String.toList_ofList, unprintable_beginningWith,
    Value.characters]

theorem unprintable_beginnings (ignoreCase negated : Bool)
    (compares : criterion.comparison = beginningComparison ignoreCase negated) :
    unprintable criterion.condition.characters =
      unprintable (criterion.values.flatMap Value.characters) := by
  rw [criterion.condition_beginnings ignoreCase negated compares]
  split
  · rename_i value one
    rw [one]
    exact criterion.unprintable_beginningTests ignoreCase negated [value]
  · cases negated <;> exact criterion.unprintable_beginningTests ignoreCase _ _

/-- The condition of a criterion gives the texts of its comparands. -/
theorem unprintable_condition :
    unprintable criterion.condition.characters =
      unprintable (criterion.values.flatMap Value.characters) := by
  have takes := criterion.takes_comparands
  cases compares : criterion.comparison with
  | isNull | isNotNull | isTrue | isFalse =>
      rw [compares] at takes
      have none := List.eq_nil_of_length_eq_zero (eq_of_beq takes)
      simp [condition, compares, Condition.characters, Condition.tests, Test.characters,
        Test.literals, Literal.characters, none]
  | isIn ignoreCase | isNotIn ignoreCase =>
      simp [condition, compares, Condition.characters, Condition.tests, Test.characters,
        Test.literals, comparands_eq, List.flatMap_map, Value.characters_literal]
  | startsWith ignoreCase => exact criterion.unprintable_beginnings ignoreCase false compares
  | startsNotWith ignoreCase => exact criterion.unprintable_beginnings ignoreCase true compares
  | greaterThan | greaterThanOrEqual | lessThan | lessThanOrEqual =>
      rw [compares] at takes
      obtain ⟨bound, one⟩ := exists_of_length_one takes
      have first : criterion.comparand 0 = bound.literal :=
        criterion.comparand_eq (by rw [one]; rfl)
      simp [condition, compares, Condition.characters, Condition.tests, Test.characters,
        Test.literals, one, first, Value.characters_literal]
  | between includeLower includeUpper =>
      rw [compares] at takes
      obtain ⟨lower, upper, two⟩ := exists_of_length_two takes
      have first : criterion.comparand 0 = lower.literal :=
        criterion.comparand_eq (by rw [two]; rfl)
      have second : criterion.comparand 1 = upper.literal :=
        criterion.comparand_eq (by rw [two]; rfl)
      cases includeLower <;> cases includeUpper <;>
        simp [condition, compares, Condition.characters, Condition.tests, Test.characters,
          Test.literals, two, first, second, Value.characters_literal]

end Criterion

/-! ## Statements made of values -/

namespace Table

variable (table : Table)

theorem all_isPrintable_physicalSchema (environment : Environment) :
    (Routing.physicalSchema table.schema environment).toList.all isPrintable = true := by
  have schema := all_isPrintable_of_isValid table.isValid_schema
  cases environment with
  | production => exact schema
  | development | testing =>
      rw [Routing.physicalSchema]
      split
      · decide
      · rw [String.toList_append, List.all_append, schema]
        decide

/-- The place of a table on a server is printable. -/
theorem unprintable_physical (environment : Environment) :
    unprintable (table.physical environment).text.toList = [] := by
  have schema := unprintable_eq_nil (table.all_isPrintable_physicalSchema environment)
  have name := unprintable_eq_nil (all_isPrintable_of_isValid table.isValid_name)
  simp (disch := decide) only [TableName.text, physical, String.toList_append,
    unprintable_append, unprintable_quoteIdentifier, schema, name, unprintable_eq_nil,
    List.append_nil]

end Table

namespace Selection

variable (selection : Selection)

theorem unprintable_conditions :
    unprintable (selection.conditions.flatMap Condition.characters) =
      unprintable selection.characters := by
  rw [conditions, characters, List.flatMap_map, unprintable_flatMap, unprintable_flatMap]
  exact List.flatMap_congr fun criterion _ => criterion.unprintable_condition

end Selection

/-- A statement about a table, all of whose columns are valid, gives nothing else that is not
printable. -/
theorem Table.unprintable_text {table : Table} {environment : Environment}
    {statement : RowStatement} (place : statement.table = table.physical environment)
    (valid : ∀ name ∈ statement.columns, Name.isValid name = true) :
    unprintable statement.text.toList = unprintable statement.characters := by
  apply unprintable_rowStatement
  · rw [place, table.unprintable_physical]
  · exact fun name named => all_isPrintable_of_isValid (valid name named)

/-- The row of a record that was built gives the texts of the record. -/
theorem Record.characters_row {table declared : Table} {record : Record}
    {values : List (Option Value)} (built : build declared values = .ok record)
    (same : record.table.sameAs table = true) :
    (table.row record).flatMap Literal.characters = record.characters := by
  have aligned : record.values.length ≤ table.fields.length := by
    rw [record.aligned, Table.length_fields_of_sameAs same]
  have held : record.characters =
      (table.fields.zip record.values).flatMap fun entry => entry.2.elim [] Value.characters := by
    rw [characters]
    nth_rewrite 1 [← List.map_snd_zip aligned]
    rw [List.flatMap_map]
  rw [row_eq same, held, List.flatMap_map]
  apply List.flatMap_congr
  intro entry member
  exact Field.characters_literal fun v stored => (typed_of_build built same entry member v stored).1

/-- The insertion of records that were built gives their texts. -/
theorem Table.unprintable_insertion {table : Table} {environment : Environment}
    {records : List Record}
    (built : ∀ record ∈ records, ∃ declared values, Record.build declared values = .ok record)
    (same : ∀ record ∈ records, record.table.sameAs table = true) {statement : RowStatement}
    (inserted : table.insertion? environment records = some statement) :
    unprintable statement.text.toList = unprintable (records.flatMap Record.characters) := by
  have rows : (records.map table.row).flatten.flatMap Literal.characters =
      records.flatMap Record.characters := by
    rw [← List.flatMap_def, List.flatMap_assoc]
    apply List.flatMap_congr
    intro record member
    obtain ⟨declared, values, made⟩ := built record member
    exact Record.characters_row made (same record member)
  rw [← rows]
  cases records with
  | nil => cases inserted
  | cons record records =>
      cases inserted
      exact unprintable_text rfl table.isValid_fieldNames

/-- The statement of an update that was built gives the new texts, and then the comparands. -/
theorem Updates.unprintable_statement {updates : Updates} {declared : Table}
    {given : List Assignment} (built : build declared given = .ok updates)
    (selection : Selection) (environment : Environment) :
    unprintable (updates.statement selection environment).text.toList =
      unprintable (updates.characters ++ selection.characters) := by
  have valid : ∀ name ∈ (updates.statement selection environment).columns,
      Name.isValid name = true := by
    simp only [statement, RowStatement.columns, List.forall_mem_append]
    refine ⟨fun name member => ?_, selection.isValid_conditionColumns⟩
    exact updates.table.isValid_fieldNames name (updates.changes_sublist.subset
      (by simpa [assignments] using member))
  have changed : updates.assignments.flatMap (fun assignment => assignment.2.characters) =
      updates.characters := by
    rw [assignments, characters, List.flatMap_map]
    apply List.flatMap_congr
    rintro ⟨field, value⟩ member
    exact Field.characters_literal fun v set => (typed_of_mem_changes built member v set).1
  rw [Table.unprintable_text rfl valid, statement, RowStatement.characters, changed,
    unprintable_append, selection.unprintable_conditions, unprintable_append]

/-- The statements that count, read and delete give the comparands. -/
theorem Selection.unprintable_statement (selection : Selection) {environment : Environment}
    {statement : RowStatement} (own : statement ∈ [selection.counting environment,
      selection.reading environment, selection.deletion environment]) :
    unprintable statement.text.toList = unprintable selection.characters := by
  rw [← selection.unprintable_conditions]
  simp only [List.mem_cons, List.not_mem_nil, or_false] at own
  rcases own with rfl | rfl | rfl
  · exact Table.unprintable_text rfl selection.isValid_conditionColumns
  · apply Table.unprintable_text rfl
    simp only [reading, RowStatement.columns, List.forall_mem_append]
    exact ⟨selection.table.isValid_fieldNames, selection.isValid_conditionColumns,
      Table.isValid_keyNames⟩
  · exact Table.unprintable_text rfl selection.isValid_conditionColumns

/-- What is not printable in a statement about rows comes from the texts that were given for it, and
nothing of what they have is lost, added or moved: an insertion has it from the records, an update
from the new values and then from the selection, and the other statements from the selection. The
null character is one of those that are not printable. -/
theorem unprintable_characters_are_given (environment : Environment) :
    (∀ (table : Table) (records : List Record),
      (∀ record ∈ records, ∃ declared values, Record.build declared values = .ok record) →
      (∀ record ∈ records, record.table.sameAs table = true) →
      ∀ statement, table.insertion? environment records = some statement →
        unprintable statement.text.toList =
          unprintable (records.flatMap Record.characters)) ∧
    (∀ (updates : Updates) (selection : Selection),
      (∃ declared given, Updates.build declared given = .ok updates) →
        unprintable (updates.statement selection environment).text.toList =
          unprintable (updates.characters ++ selection.characters)) ∧
    ∀ (selection : Selection) (statement : RowStatement),
      statement ∈ [selection.counting environment, selection.reading environment,
        selection.deletion environment] →
      unprintable statement.text.toList = unprintable selection.characters := by
  refine ⟨?_, ?_, ?_⟩
  · intro table records built same statement inserted
    exact Table.unprintable_insertion built same inserted
  · rintro updates selection ⟨declared, given, built⟩
    exact Updates.unprintable_statement built selection environment
  · intro selection statement own
    exact selection.unprintable_statement own

/-- A city with an accent and a line break, and one that it is changed to. -/
theorem accents_of_towns_are_given :
    ∃ record updates statement,
      Record.build School.zipCode
        [some (.string "81201"), some (.string "Cañon\nCity"), some (.string "CO")] =
          .ok record ∧
      School.zipCode.insertion? .testing [record] = some statement ∧
      unprintable statement.text.toList = ['ñ', '\n'] ∧
      Updates.build School.zipCode [("city", some (.string "Doña Ana"))] = .ok updates ∧
      unprintable (updates.statement (.all School.zipCode) .testing).text.toList = ['ñ'] ∧
      unprintable ((Selection.all School.zipCode).counting .testing).text.toList = [] := by
  obtain ⟨insertions, changes, selections⟩ := unprintable_characters_are_given .testing
  refine ⟨_, _, _, rfl, rfl, ?_, rfl, ?_, ?_⟩
  · refine (insertions School.zipCode [_] ?_ ?_ _ rfl).trans ?_
    · intro record member
      rw [List.mem_singleton.mp member]
      exact ⟨School.zipCode,
        [some (.string "81201"), some (.string "Cañon\nCity"), some (.string "CO")], rfl⟩
    · intro record member
      rw [List.mem_singleton.mp member]
      decide +kernel
    · decide +kernel
  · exact (changes _ (.all School.zipCode) ⟨School.zipCode,
      [("city", some (.string "Doña Ana"))], rfl⟩).trans (by decide +kernel)
  · exact (selections (.all School.zipCode) _ List.mem_cons_self).trans rfl

/-- A record with a null character is accepted, and so are an update and a criterion. Nothing is
said against storing their values, and the statements made of them have the character. -/
theorem null_characters_are_sent :
    (Value.string "Fort\x00Collins").storageIssue? = none ∧
      ∃ record updates criterion selection statement,
        Record.build School.zipCode
          [some (.string "80523"), some (.string "Fort\x00Collins"), some (.string "CO")] =
            .ok record ∧
        School.zipCode.insertion? .testing [record] = some statement ∧
        '\x00' ∈ statement.text.toList ∧
        Updates.build School.zipCode [("city", some (.string "Fort\x00Collins"))] = .ok updates ∧
        '\x00' ∈ (updates.statement (.all School.zipCode) .testing).text.toList ∧
        Criterion.string School.zipCode.fields[1] .exactStartsWith
          [.string "Fort\x00Collins"] = .ok criterion ∧
        Selection.build School.zipCode [criterion] = .ok selection ∧
        '\x00' ∈ (selection.counting .testing).text.toList := by
  refine ⟨rfl, _, _, _, _, _, rfl, rfl, ?_, rfl, ?_, rfl, rfl, ?_⟩
  · decide +kernel
  · decide +kernel
  · decide +kernel

end TableStore
