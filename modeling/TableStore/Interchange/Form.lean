import TableStore.Interchange.Configuration
import TableStore.Interchange.Report
import TableStore.Interchange.Value
import TableStore.Json.Reader

/-!
# Forms of interchange

Each kind of data that travels has one written form. Reading a text in a form and
writing what was read gives the written form of the same data: members that the form
does not know are gone, all others stand in their order, and there are no blanks.
-/

namespace TableStore.Interchange

open Server Validation

/-- The kinds of data that travel. -/
inductive Form where
  | valueType
  | role
  | environment
  | product
  | nonFinite
  | action
  | status
  | validity
  | booleanMatch
  | orderedMatch
  | stringMatch
  | comparison
  | value
  | rule
  | constraint
  | result
  | tableStatus
  | configuration
deriving DecidableEq, Repr

/-- The written form of a name of a closed set. -/
def canonicalName? {α : Type} (all : List α) (name : α → String) (json : Json) :
    Option Json :=
  (json.named? all name).map (nameToJson name)

/-- The written form of JSON that is read in a form. -/
def Form.canonical? (form : Form) (json : Json) : Option Json :=
  match form with
  | .valueType => canonicalName? ValueType.all ValueType.name json
  | .role => canonicalName? Role.all Role.name json
  | .environment => canonicalName? Environment.all Environment.shortName json
  | .product => canonicalName? Product.all Product.key json
  | .nonFinite => canonicalName? NonFinite.all NonFinite.name json
  | .action => canonicalName? Action.all Action.name json
  | .status => canonicalName? Status.all Status.name json
  | .validity => canonicalName? Validity.all Validity.name json
  | .booleanMatch => canonicalName? BooleanMatch.all BooleanMatch.name json
  | .orderedMatch => canonicalName? OrderedMatch.all OrderedMatch.name json
  | .stringMatch => canonicalName? StringMatch.all StringMatch.name json
  | .comparison => (Comparison.ofJson? json).map Comparison.toJson
  | .value => (Value.ofJson? json).map Value.toJson
  | .rule => (Rule.ofJson? json).map Rule.toJson
  | .constraint => (Constraint.ofJson? json).map Constraint.toJson
  | .result => (Result.ofJson? json).map Result.toJson
  | .tableStatus => (TableStatus.ofJson? json).map TableStatus.toJson
  | .configuration => (Configuration.ofJson? json).map Configuration.toJson

/-- The written form of a text that is read in a form. -/
def Form.canonicalText? (form : Form) (text : String) : Option String :=
  ((Json.ofText? text).bind form.canonical?).map fun json => json.text .compact

end TableStore.Interchange
