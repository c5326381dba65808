import TableStore.Value.Type

/-!
# Comparisons

A comparison is the condition that a criterion puts on one column, apart from its
comparands. The four families of matches name the comparisons that suit truth
values, numbers, points in time and texts; numbers and points in time share one
set of matches.
-/

namespace TableStore

/-- The condition of a criterion. -/
inductive Comparison where
  | isNull
  | isNotNull
  | isTrue
  | isFalse
  | isIn (ignoreCase : Bool)
  | isNotIn (ignoreCase : Bool)
  | startsWith (ignoreCase : Bool)
  | startsNotWith (ignoreCase : Bool)
  | greaterThan
  | greaterThanOrEqual
  | lessThan
  | lessThanOrEqual
  | between (includeLower includeUpper : Bool)
deriving DecidableEq, Repr

/-- The matches for truth values. -/
inductive BooleanMatch where
  | isNull
  | isNotNull
  | isTrue
  | isFalse
deriving DecidableEq, Repr

/-- The matches for numbers and for points in time. -/
inductive OrderedMatch where
  | isNull
  | isNotNull
  | exactIn
  | exactNotIn
  | greaterThan
  | greaterThanOrEqual
  | lessThan
  | lessThanOrEqual
  | betweenExcludeBounds
  | betweenExcludeLowerBound
  | betweenExcludeUpperBound
  | betweenIncludeBounds
deriving DecidableEq, Repr

/-- The matches for texts. -/
inductive StringMatch where
  | isNull
  | isNotNull
  | exactIn
  | exactNotIn
  | caseInsensitiveIn
  | caseInsensitiveNotIn
  | exactStartsWith
  | exactNotStartsWith
  | caseInsensitiveStartsWith
  | caseInsensitiveNotStartsWith
deriving DecidableEq, Repr

/-- The comparison that a match for truth values names. -/
def BooleanMatch.comparison : BooleanMatch → Comparison
  | .isNull => .isNull
  | .isNotNull => .isNotNull
  | .isTrue => .isTrue
  | .isFalse => .isFalse

/-- The comparison that a match for numbers or points in time names. -/
def OrderedMatch.comparison : OrderedMatch → Comparison
  | .isNull => .isNull
  | .isNotNull => .isNotNull
  | .exactIn => .isIn false
  | .exactNotIn => .isNotIn false
  | .greaterThan => .greaterThan
  | .greaterThanOrEqual => .greaterThanOrEqual
  | .lessThan => .lessThan
  | .lessThanOrEqual => .lessThanOrEqual
  | .betweenExcludeBounds => .between false false
  | .betweenExcludeLowerBound => .between false true
  | .betweenExcludeUpperBound => .between true false
  | .betweenIncludeBounds => .between true true

/-- The comparison that a match for texts names. -/
def StringMatch.comparison : StringMatch → Comparison
  | .isNull => .isNull
  | .isNotNull => .isNotNull
  | .exactIn => .isIn false
  | .exactNotIn => .isNotIn false
  | .caseInsensitiveIn => .isIn true
  | .caseInsensitiveNotIn => .isNotIn true
  | .exactStartsWith => .startsWith false
  | .exactNotStartsWith => .startsNotWith false
  | .caseInsensitiveStartsWith => .startsWith true
  | .caseInsensitiveNotStartsWith => .startsNotWith true

/-- The families of value types that a match can be for. -/
inductive Family where
  | numeric
  | temporal
  | string
  | boolean
deriving DecidableEq, Repr

/-- Whether a value type belongs to a family. -/
def Family.admits : Family → ValueType → Bool
  | .numeric, type => type.isNumeric
  | .temporal, type => type.isTemporal
  | .string, type => type == .string
  | .boolean, type => type == .boolean

/-- The name of a family in messages. -/
def Family.name : Family → String
  | .numeric => "numeric"
  | .temporal => "temporal"
  | .string => "string"
  | .boolean => "boolean"

namespace Comparison

/-- Whether a number of comparands suits a comparison. -/
def takes : Comparison → Nat → Bool
  | .isNull, n | .isNotNull, n | .isTrue, n | .isFalse, n => n == 0
  | .isIn _, n | .isNotIn _, n | .startsWith _, n | .startsNotWith _, n => 1 ≤ n
  | .greaterThan, n | .greaterThanOrEqual, n | .lessThan, n | .lessThanOrEqual, n => n == 1
  | .between _ _, n => n == 2

/-- Whether some match for a value type names the comparison. -/
def suits : Comparison → ValueType → Bool
  | .isNull, _ | .isNotNull, _ => true
  | .isTrue, type | .isFalse, type => type == .boolean
  | .isIn false, type | .isNotIn false, type =>
      type.isNumeric || type.isTemporal || type == .string
  | .isIn true, type | .isNotIn true, type => type == .string
  | .startsWith _, type | .startsNotWith _, type => type == .string
  | .greaterThan, type | .greaterThanOrEqual, type | .lessThan, type
  | .lessThanOrEqual, type | .between _ _, type => type.isNumeric || type.isTemporal

/-- A name followed by named truth values between braces. -/
private def withFlags (name : String) (flags : List (String × Bool)) : String :=
  let shown := flags.map fun (flag, truth) => flag ++ ": " ++ toString truth
  name ++ " \x7b " ++ ", ".intercalate shown ++ " \x7d"

/-- The description of a comparison in messages. -/
def text : Comparison → String
  | .isNull => "IsNull"
  | .isNotNull => "IsNotNull"
  | .isTrue => "IsTrue"
  | .isFalse => "IsFalse"
  | .isIn ignoreCase => withFlags "In" [("case_insensitive", ignoreCase)]
  | .isNotIn ignoreCase => withFlags "NotIn" [("case_insensitive", ignoreCase)]
  | .startsWith ignoreCase => withFlags "StartsWith" [("case_insensitive", ignoreCase)]
  | .startsNotWith ignoreCase => withFlags "NotStartsWith" [("case_insensitive", ignoreCase)]
  | .greaterThan => "GreaterThan"
  | .greaterThanOrEqual => "GreaterThanOrEqual"
  | .lessThan => "LessThan"
  | .lessThanOrEqual => "LessThanOrEqual"
  | .between lower upper =>
      withFlags "Between" [("include_lower", lower), ("include_upper", upper)]

end Comparison

theorem BooleanMatch.comparison_suits (boolean : BooleanMatch) {type : ValueType}
    (member : Family.boolean.admits type = true) : boolean.comparison.suits type = true := by
  cases boolean <;> simp_all [comparison, Comparison.suits, Family.admits]

theorem StringMatch.comparison_suits (string : StringMatch) {type : ValueType}
    (member : Family.string.admits type = true) : string.comparison.suits type = true := by
  cases string <;> simp_all [comparison, Comparison.suits, Family.admits]

theorem OrderedMatch.comparison_suits (ordered : OrderedMatch) {type : ValueType}
    (member : Family.numeric.admits type = true ∨ Family.temporal.admits type = true) :
    ordered.comparison.suits type = true := by
  cases ordered <;> rcases member with member | member <;>
    simp_all [comparison, Comparison.suits, Family.admits]

end TableStore
