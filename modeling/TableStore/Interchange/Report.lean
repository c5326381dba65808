import TableStore.Interchange.Names

/-!
# Interchange of validation results

The outcome of a validation travels as records of its parts. A result can also be
written for readers, with one part to a line.
-/

namespace TableStore.Validation

namespace Result

/-- A result as JSON. -/
def toJson (result : Result) : Json :=
  .record [("status", .string result.status.name), ("errors", .strings result.errors),
    ("actions_taken", .strings result.actionsTaken)]

/-- The result that JSON gives. -/
def ofJson? (value : Json) : Option Result := do
  match ← value.record? false ["status", "errors", "actions_taken"] with
  | [some status, some errors, some actionsTaken] =>
      return ⟨← status.named? Status.all Status.name, ← errors.list? Json.text?,
        ← actionsTaken.list? Json.text?⟩
  | _ => none

/-- A result written for readers. -/
def reportText (result : Result) : String :=
  result.toJson.text .indented

end Result

namespace TableStatus

/-- The outcome of a validation as JSON. -/
def toJson (outcome : TableStatus) : Json :=
  .record [("physical_table", .string outcome.physicalTable),
    ("context", .string outcome.environment.shortName),
    ("validity", .string outcome.validity.name), ("result", outcome.result.toJson)]

/-- The outcome that JSON gives. -/
def ofJson? (value : Json) : Option TableStatus := do
  match ← value.record? false ["physical_table", "context", "validity", "result"] with
  | [some physicalTable, some environment, some validity, some result] =>
      return ⟨← physicalTable.text?, ← environment.named? Environment.all Environment.shortName,
        ← validity.named? Validity.all Validity.name, ← Result.ofJson? result⟩
  | _ => none

end TableStatus

end TableStore.Validation
