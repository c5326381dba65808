import TableStore.Constraint
import TableStore.Json.Shape
import TableStore.Server.Connection
import TableStore.Validation.Report

/-!
# Interchange of names

The closed sets of names travel as JSON strings: value types, roles, environments,
products, policies, actions, verdicts and matches. Each set is listed in order of
declaration and a name is looked up in the list.
-/

namespace TableStore

open Server Validation

/-- Every role. -/
def Role.all : List Role :=
  [.partitionKey, .clusteringKey, .notNull, .nullable]

/-- Every policy. -/
def NonFinite.all : List NonFinite :=
  [.allValues, .allButNaN, .allButInfinities, .finiteOnly]

/-- Every product. -/
def Server.Product.all : List Product :=
  [.informix, .oracle, .postgreSql, .mySql, .cassandra]

/-- The name of a product in interchange. -/
def Server.Product.key : Product → String
  | .informix => "Informix"
  | .oracle => "Oracle"
  | .postgreSql => "PostgreSql"
  | .mySql => "MySql"
  | .cassandra => "Cassandra"

/-- Every action. -/
def Validation.Action.all : List Action :=
  [.checkOnly, .buildIfMissing, .buildOrRepairIfInvalid]

/-- Every status. -/
def Validation.Status.all : List Status :=
  [.valid, .invalid]

/-- Every validity. -/
def Validation.Validity.all : List Validity :=
  [.valid, .validAfterChanges, .presentAndInvalid, .notPresent]

/-- Every match for truth values. -/
def BooleanMatch.all : List BooleanMatch :=
  [.isNull, .isNotNull, .isTrue, .isFalse]

/-- The name of a match for truth values. -/
def BooleanMatch.name : BooleanMatch → String
  | .isNull => "IS_NULL"
  | .isNotNull => "IS_NOT_NULL"
  | .isTrue => "IS_TRUE"
  | .isFalse => "IS_FALSE"

/-- Every match for numbers and points in time. -/
def OrderedMatch.all : List OrderedMatch :=
  [.isNull, .isNotNull, .exactIn, .exactNotIn, .greaterThan, .greaterThanOrEqual,
    .lessThan, .lessThanOrEqual, .betweenExcludeBounds, .betweenExcludeLowerBound,
    .betweenExcludeUpperBound, .betweenIncludeBounds]

/-- The name of a match for numbers and points in time. -/
def OrderedMatch.name : OrderedMatch → String
  | .isNull => "IS_NULL"
  | .isNotNull => "IS_NOT_NULL"
  | .exactIn => "EXACT_IN"
  | .exactNotIn => "EXACT_NOT_IN"
  | .greaterThan => "GREATER_THAN"
  | .greaterThanOrEqual => "GREATER_THAN_OR_EQUAL"
  | .lessThan => "LESS_THAN"
  | .lessThanOrEqual => "LESS_THAN_OR_EQUAL"
  | .betweenExcludeBounds => "BETWEEN_EXCLUDE_BOUNDS"
  | .betweenExcludeLowerBound => "BETWEEN_EXCLUDE_LOWER_BOUND"
  | .betweenExcludeUpperBound => "BETWEEN_EXCLUDE_UPPER_BOUND"
  | .betweenIncludeBounds => "BETWEEN_INCLUDE_BOUNDS"

/-- Every match for texts. -/
def StringMatch.all : List StringMatch :=
  [.isNull, .isNotNull, .exactIn, .exactNotIn, .caseInsensitiveIn, .caseInsensitiveNotIn,
    .exactStartsWith, .exactNotStartsWith, .caseInsensitiveStartsWith,
    .caseInsensitiveNotStartsWith]

/-- The name of a match for texts. -/
def StringMatch.name : StringMatch → String
  | .isNull => "IS_NULL"
  | .isNotNull => "IS_NOT_NULL"
  | .exactIn => "EXACT_IN"
  | .exactNotIn => "EXACT_NOT_IN"
  | .caseInsensitiveIn => "CASE_INSENSITIVE_IN"
  | .caseInsensitiveNotIn => "CASE_INSENSITIVE_NOT_IN"
  | .exactStartsWith => "EXACT_STARTS_WITH"
  | .exactNotStartsWith => "EXACT_NOT_STARTS_WITH"
  | .caseInsensitiveStartsWith => "CASE_INSENSITIVE_STARTS_WITH"
  | .caseInsensitiveNotStartsWith => "CASE_INSENSITIVE_NOT_STARTS_WITH"

/-- A named member of a closed set in interchange. -/
def nameToJson {α : Type} (name : α → String) (member : α) : Json :=
  .string (name member)

/-- The comparison that JSON gives: a name, or a name with flags. -/
def Comparison.ofJson? (value : Json) : Option Comparison := do
  let (name, content) ← value.choice?
  let unit (comparison : Comparison) : Option Comparison :=
    if Json.isUnit content then some comparison else none
  let flag (comparison : Bool → Comparison) : Option Comparison := do
    match ← (← content).record? false ["case_insensitive"] with
    | [some truth] => truth.truth?.map comparison
    | _ => none
  let simple := [Comparison.isNull, .isNotNull, .isTrue, .isFalse, .greaterThan,
    .greaterThanOrEqual, .lessThan, .lessThanOrEqual]
  match simple.find? fun comparison => comparison.text == name with
  | some comparison => unit comparison
  | none =>
      if name = "In" then flag .isIn
      else if name = "NotIn" then flag .isNotIn
      else if name = "StartsWith" then flag .startsWith
      else if name = "NotStartsWith" then flag .startsNotWith
      else if name = "Between" then
        match ← (← content).record? false ["include_lower", "include_upper"] with
        | [some lower, some upper] => do
            let lower ← lower.truth?
            let upper ← upper.truth?
            return .between lower upper
        | _ => none
      else none

/-- A comparison as JSON. -/
def Comparison.toJson (comparison : Comparison) : Json :=
  let flag (name : String) (truth : Bool) : Json :=
    .choice name (.record [("case_insensitive", .bool truth)])
  match comparison with
  | .isIn ignoreCase => flag "In" ignoreCase
  | .isNotIn ignoreCase => flag "NotIn" ignoreCase
  | .startsWith ignoreCase => flag "StartsWith" ignoreCase
  | .startsNotWith ignoreCase => flag "NotStartsWith" ignoreCase
  | .between lower upper =>
      .choice "Between"
        (.record [("include_lower", .bool lower), ("include_upper", .bool upper)])
  | comparison => .string comparison.text

end TableStore
