import TableStore.Statement.Structure

/-!
# Discrepancies and reports

A discrepancy is one way in which the live structure differs from a declaration. Each
has a description, and under each action it either has a statement that removes it
or stays.

A report collects what stayed and what was done, and says whether the table was there
before. The verdict follows from these three alone.
-/

namespace TableStore.Validation

open Sql

/-- What a validation may do about discrepancies. -/
inductive Action where
  | checkOnly
  | buildIfMissing
  | buildOrRepairIfInvalid
deriving DecidableEq, Repr

namespace Action

/-- Whether missing structure may be created. -/
def builds : Action → Bool
  | .checkOnly => false
  | _ => true

/-- Whether existing structure may be altered. -/
def repairs : Action → Bool
  | .buildOrRepairIfInvalid => true
  | _ => false

/-- The name of an action. -/
def name : Action → String
  | .checkOnly => "CHECK_ONLY"
  | .buildIfMissing => "BUILD_IF_MISSING"
  | .buildOrRepairIfInvalid => "BUILD_OR_REPAIR_IF_INVALID"

end Action

/-- One way in which the live structure differs from a declaration. -/
inductive Discrepancy where
  | schemaMissing
  | tableMissing
  | columnMissing (field : Field)
  | wrongType (field : Field) (live : String)
  | wrongNullability (field : Field)
  | wrongKey (live : List String)
deriving DecidableEq

namespace Discrepancy

/-- The description of a discrepancy of a table in an environment. -/
def message (table : Table) (environment : Environment) : Discrepancy → String
  | .schemaMissing =>
      s!"schema '{(table.physical environment).schema}' does not exist"
  | .tableMissing =>
      s!"table '{(table.physical environment).schema}.{table.name}' does not exist"
  | .columnMissing field => s!"column '{field.name}' is missing"
  | .wrongType field live =>
      s!"column '{field.name}' has type '{live}', expected '{field.type.nativeName}' for " ++
        field.type.name
  | .wrongNullability field =>
      if field.isNullable then
        s!"column '{field.name}' is NOT NULL but is declared {field.role.name}"
      else s!"column '{field.name}' allows NULL but is declared {field.role.name}"
  | .wrongKey live =>
      "primary key is (" ++ ", ".intercalate live ++ "), expected (" ++
        ", ".intercalate table.keyNames ++ ")"

/-- The statement that removes a discrepancy, where the action allows one. A primary key
that is there is never replaced. -/
def remedy? (table : Table) (environment : Environment) (action : Action) :
    Discrepancy → Option Definition
  | .schemaMissing =>
      if action.builds then some (table.schemaCreation environment) else none
  | .tableMissing => if action.builds then some (table.creation environment) else none
  | .columnMissing field =>
      if action.builds then some (table.columnAddition field environment) else none
  | .wrongType field _ =>
      if action.repairs then some (table.typeAlteration field environment) else none
  | .wrongNullability field =>
      if action.repairs then some (table.nullabilityAlteration field environment) else none
  | .wrongKey live =>
      if live.isEmpty && action.repairs then some (table.keyAddition environment) else none

end Discrepancy

/-- The overall verdict of a validation. -/
inductive Status where
  | valid
  | invalid
deriving DecidableEq, Repr

/-- How a table compared with its declaration. -/
inductive Validity where
  | valid
  | validAfterChanges
  | presentAndInvalid
  | notPresent
deriving DecidableEq, Repr

/-- The name of a status. -/
def Status.name : Status → String
  | .valid => "VALID"
  | .invalid => "INVALID"

/-- The name of a validity. -/
def Validity.name : Validity → String
  | .valid => "VALID"
  | .validAfterChanges => "VALID_AFTER_CHANGES"
  | .presentAndInvalid => "PRESENT_AND_INVALID"
  | .notPresent => "NOT_PRESENT"

/-- A status with the discrepancies that stayed and the statements that were executed. -/
structure Result where
  status : Status
  errors : List String
  actionsTaken : List String
deriving DecidableEq

/-- Whether the status of a result is valid. -/
def Result.isValid (result : Result) : Bool :=
  result.status == .valid

/-- The outcome of validating one table in one environment. -/
structure TableStatus where
  physicalTable : String
  environment : Environment
  validity : Validity
  result : Result
deriving DecidableEq

/-- What a validation has found and done so far. -/
structure Report where
  remaining : List Discrepancy := []
  executed : List Definition := []
deriving DecidableEq

namespace Report

/-- A report with one more discrepancy that stays. -/
def leave (report : Report) (discrepancy : Discrepancy) : Report :=
  { report with remaining := report.remaining ++ [discrepancy] }

/-- A report with one more executed statement. -/
def execute (report : Report) (statement : Definition) : Report :=
  { report with executed := report.executed ++ [statement] }

/-- The status of a report. -/
def status (report : Report) : Status :=
  if report.remaining.isEmpty then .valid else .invalid

/-- The validity that a report shows, given whether the table was there before. -/
def validity (report : Report) (present : Bool) : Validity :=
  if report.remaining.isEmpty then
    if report.executed.isEmpty then .valid else .validAfterChanges
  else if present then .presentAndInvalid
  else .notPresent

/-- The outcome of a validation. -/
def finish (report : Report) (table : Table) (environment : Environment) (present : Bool) :
    TableStatus :=
  { physicalTable := (table.physical environment).schema ++ "." ++ table.name
    environment
    validity := report.validity present
    result :=
      { status := report.status
        errors := report.remaining.map (·.message table environment)
        actionsTaken := report.executed.map (·.text) } }

end Report

end TableStore.Validation
