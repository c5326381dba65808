import TableStore.Table.Basic

/-!
# Reference tables

The tables of the whole institution: academic terms, kinds of holds, postal codes,
schools and named parameters. They share one tablespace and one schema.
-/

namespace TableStore.School

/-- The tablespace and the schema of the reference tables. -/
def institution : String := "main"

/-- A constraint on the number of characters. -/
private def lengthBetween (name : String) (least greatest : UInt64) : Constraint :=
  ⟨name, .stringLength least greatest⟩

/-- The declaration of the academic terms. -/
def termDeclaration : Declaration where
  tablespace := institution
  schema := institution
  name := "term"
  description := "One row per academic term. Term date ranges do not overlap."
  fields := [
    { name := "term", type := .integer, role := .partitionKey
      description := "Term ID in the form YYYYNN"
      constraints := [⟨"term_id_range", .integerRange 100000 999999⟩] },
    { name := "start_date", type := .localDate, role := .notNull
      description := "First day of the term (not the first day of classes)" },
    { name := "end_date", type := .localDate, role := .notNull
      description := "Last day of the term (not the last day of classes)" },
    { name := "academic_year", type := .integer, role := .notNull
      description := "Academic year, such as 2324 for 2023-2024"
      constraints := [⟨"academic_year_range", .integerRange 1000 9999⟩] },
    { name := "active_index", type := .integer, role := .notNull
      description := "0 for the active term, +1 for the next, -1 for the prior, and so on" },
    { name := "drop_deadline", type := .localDate, role := .notNull
      description := "Last day to drop courses" },
    { name := "withdraw_deadline", type := .localDate, role := .notNull
      description := "Last day to withdraw from courses" }]

/-- The declaration of the kinds of holds. -/
def holdTypeDeclaration : Declaration where
  tablespace := institution
  schema := institution
  name := "hold_type"
  description := "Each row defines one type of hold and who may manage it."
  examples := some "hold_id '06', severity 'F', hold_category 'DISCIPLINE'"
  fields := [
    { name := "hold_id", type := .string, role := .partitionKey
      description := "Two-character hold ID"
      constraints := [lengthBetween "hold_id_length" 2 2] },
    { name := "severity", type := .string, role := .notNull
      description := "F for fatal holds that block work, N for non-fatal"
      constraints := [lengthBetween "severity_length" 1 1,
        ⟨"severity_value", .stringEnumerated ["F", "N"]⟩] },
    { name := "hold_category", type := .string, role := .notNull
      description := "Hold category"
      constraints := [lengthBetween "hold_category_length" 1 32] },
    { name := "add_perm_lvl", type := .integer, role := .notNull
      description := "Minimum permission level to add a hold of this type" },
    { name := "remove_perm_lvl", type := .integer, role := .notNull
      description := "Minimum permission level to remove a hold of this type" },
    { name := "suspend_perm_lvl", type := .integer, role := .notNull
      description := "Minimum permission level to suspend a hold of this type" },
    { name := "times_to_display", type := .integer, role := .nullable
      description := "Displays before the hold is removed automatically; null for never" }]

/-- The declaration of the postal codes. -/
def zipCodeDeclaration : Declaration where
  tablespace := institution
  schema := institution
  name := "zip_code"
  description := "City and state for each zip code."
  fields := [
    { name := "zip_code", type := .string, role := .partitionKey
      description := "5-digit or 5+4 zip code"
      constraints := [lengthBetween "zip_code_length" 5 10] },
    { name := "city", type := .string, role := .notNull
      description := "City name"
      constraints := [lengthBetween "city_length" 1 32] },
    { name := "state", type := .string, role := .notNull
      description := "Two-letter state code"
      constraints := [lengthBetween "state_length" 2 2] }]

/-- The declaration of the schools. -/
def schoolDeclaration : Declaration where
  tablespace := institution
  schema := institution
  name := "school"
  description := "Each row is one K-12 school, used for readiness reports to schools."
  fields := [
    { name := "ceeb_code", type := .integer, role := .partitionKey
      description := "CEEB code"
      constraints := [⟨"ceeb_code_range", .integerRange 0 999999⟩] },
    { name := "name", type := .string, role := .notNull
      description := "School name" },
    { name := "mailing_addr", type := .string, role := .notNull
      description := "Mailing address"
      constraints := [lengthBetween "mailing_addr_length" 1 32] },
    { name := "city", type := .string, role := .notNull
      description := "Mailing city"
      constraints := [lengthBetween "city_length" 1 32] },
    { name := "state", type := .string, role := .notNull
      description := "Two-letter state code"
      constraints := [lengthBetween "state_length" 2 2] },
    { name := "zip_code", type := .string, role := .notNull
      description := "5-digit or 5+4 zip code"
      constraints := [lengthBetween "zip_code_length" 5 10] }]

/-- An optional field of a parameter set, numbered within its kind. -/
private def parameterSlot (kind label : String) (type : ValueType) (number : String) : Field :=
  { name := kind ++ "_" ++ number, type, role := .nullable
    description := label ++ " parameter " ++ number }

/-- The declaration of the parameter sets. -/
def parameterDeclaration : Declaration where
  tablespace := institution
  schema := institution
  name := "parameter"
  description := "Named sets of configuration values."
  fields :=
    { name := "name", type := .string, role := .partitionKey
      description := "Parameter set name" } ::
    (["1", "2", "3", "4", "5"].map (parameterSlot "string" "String" .string) ++
      ["1", "2", "3", "4", "5"].map (parameterSlot "integer" "Integer" .integer) ++
      ["1", "2"].flatMap fun number =>
        [parameterSlot "date" "Date" .localDate number,
          parameterSlot "time" "Time" .localTime number])

/-- The academic terms. -/
def term : Table :=
  termDeclaration.accept (by decide +kernel)

/-- The kinds of holds. -/
def holdType : Table :=
  holdTypeDeclaration.accept (by decide +kernel)

/-- The postal codes. -/
def zipCode : Table :=
  zipCodeDeclaration.accept (by decide +kernel)

/-- The schools. -/
def school : Table :=
  schoolDeclaration.accept (by decide +kernel)

/-- The parameter sets. -/
def parameter : Table :=
  parameterDeclaration.accept (by decide +kernel)

/-- Every reference table. -/
def referenceTables : List Table :=
  [term, holdType, zipCode, school, parameter]

end TableStore.School
