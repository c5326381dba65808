import TableStore.Criterion.Basic
import TableStore.Sql.Literal

/-!
# Conditions

The conditions of a statement are tests of one column. A test compares the column with
literals, and a few tests can be grouped in parentheses to hold together or in
the alternative.

Every criterion has a condition. A range without both bounds is a group of two
comparisons, and a list of prefixes is a group of pattern tests in which the
characters with a meaning in patterns are escaped.
-/

namespace TableStore.Sql

/-- The comparison operators. -/
inductive Operator where
  | equal
  | greater
  | greaterOrEqual
  | less
  | lessOrEqual
deriving DecidableEq, Repr

/-- The sign of an operator. -/
def Operator.text : Operator → String
  | .equal => "="
  | .greater => ">"
  | .greaterOrEqual => ">="
  | .less => "<"
  | .lessOrEqual => "<="

/-- A test of one column. -/
inductive Test where
  | isNull (column : String)
  | isNotNull (column : String)
  | compare (column : String) (operator : Operator) (literal : Literal)
  | between (column : String) (lower upper : Literal)
  | isIn (ignoreCase negated : Bool) (column : String) (literals : List Literal)
  | like (ignoreCase negated : Bool) (column : String) (pattern : String)
deriving DecidableEq

/-- A test, or several in parentheses. -/
inductive Condition where
  | test (test : Test)
  | all (tests : List Test)
  | any (tests : List Test)
deriving DecidableEq

/-- A text applied to the function that makes letters small, if case is ignored. -/
def lowered (ignoreCase : Bool) (text : String) : String :=
  if ignoreCase then "LOWER(" ++ text ++ ")" else text

/-- The text of a test. -/
def Test.text : Test → String
  | .isNull column => quoteIdentifier column ++ " IS NULL"
  | .isNotNull column => quoteIdentifier column ++ " IS NOT NULL"
  | .compare column operator literal =>
      quoteIdentifier column ++ " " ++ operator.text ++ " " ++ literal.text
  | .between column lower upper =>
      quoteIdentifier column ++ " BETWEEN " ++ lower.text ++ " AND " ++ upper.text
  | .isIn ignoreCase negated column literals =>
      lowered ignoreCase (quoteIdentifier column) ++
        (if negated then " NOT IN (" else " IN (") ++
        ", ".intercalate (literals.map fun literal => lowered ignoreCase literal.text) ++ ")"
  | .like ignoreCase negated column pattern =>
      quoteIdentifier column ++ (if negated then " NOT " else " ") ++
        (if ignoreCase then "ILIKE " else "LIKE ") ++ quoteString pattern ++
        " ESCAPE " ++ quoteString "\\"

/-- The text of a condition. -/
def Condition.text : Condition → String
  | .test single => single.text
  | .all tests => "(" ++ " AND ".intercalate (tests.map Test.text) ++ ")"
  | .any tests => "(" ++ " OR ".intercalate (tests.map Test.text) ++ ")"

/-- The clause that restricts a statement to the rows that meet every condition; it is
empty when there are none. -/
def whereText : List Condition → String
  | [] => ""
  | conditions => " WHERE " ++ " AND ".intercalate (conditions.map Condition.text)

/-- Whether a character has a meaning of its own in a pattern. -/
def isPatternMark (c : Char) : Bool :=
  c == '%' || c == '_' || c == '\\'

/-- The pattern of the texts that begin with a given text. -/
def beginningWith (text : List Char) : List Char :=
  (text.flatMap fun c => if isPatternMark c then ['\\', c] else [c]) ++ ['%']

end TableStore.Sql

namespace TableStore

open Sql

/-- The pattern of the texts that begin with a value; a value that is no text counts as
the empty text. -/
def Value.pattern (value : Value) : String :=
  String.ofList (beginningWith (value.asString?.getD "").toList)

namespace Criterion

/-- The literal of a comparand, counted from the first. -/
def comparand (criterion : Criterion) (index : Nat) : Literal :=
  criterion.field.literal criterion.values[index]?

/-- The literals of all comparands. -/
def comparands (criterion : Criterion) : List Literal :=
  criterion.values.map fun value => criterion.field.literal (some value)

/-- The pattern tests of all comparands. -/
def patternTests (criterion : Criterion) (ignoreCase negated : Bool) : List Test :=
  criterion.values.map fun value =>
    .like ignoreCase negated criterion.field.name value.pattern

/-- One test alone, or a group of any other number of tests. -/
private def grouped (group : List Test → Condition) : List Test → Condition
  | [test] => .test test
  | tests => group tests

/-- The condition of a criterion. -/
def condition (criterion : Criterion) : Condition :=
  let column := criterion.field.name
  match criterion.comparison with
  | .isNull => .test (.isNull column)
  | .isNotNull => .test (.isNotNull column)
  | .isTrue => .test (.compare column .equal (.boolean true))
  | .isFalse => .test (.compare column .equal (.boolean false))
  | .isIn ignoreCase => .test (.isIn ignoreCase false column criterion.comparands)
  | .isNotIn ignoreCase => .test (.isIn ignoreCase true column criterion.comparands)
  | .startsWith ignoreCase => grouped .any (criterion.patternTests ignoreCase false)
  | .startsNotWith ignoreCase => grouped .all (criterion.patternTests ignoreCase true)
  | .greaterThan => .test (.compare column .greater (criterion.comparand 0))
  | .greaterThanOrEqual => .test (.compare column .greaterOrEqual (criterion.comparand 0))
  | .lessThan => .test (.compare column .less (criterion.comparand 0))
  | .lessThanOrEqual => .test (.compare column .lessOrEqual (criterion.comparand 0))
  | .between true true =>
      .test (.between column (criterion.comparand 0) (criterion.comparand 1))
  | .between includeLower includeUpper =>
      .all [
        .compare column (if includeLower then .greaterOrEqual else .greater)
          (criterion.comparand 0),
        .compare column (if includeUpper then .lessOrEqual else .less)
          (criterion.comparand 1)]

end Criterion

end TableStore
