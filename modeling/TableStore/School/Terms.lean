import TableStore.Registry
import TableStore.School.Reference

/-!
# Tables of a term

Every academic term has a schema of its own, named after its number of six digits,
with a table of the weeks of the term. The registry of the application holds the
reference tables and the table of weeks of every term it is built for; a table of weeks
is looked up there.
-/

namespace TableStore.School

/-- The least number of a term. -/
def leastTerm : Int := 100000

/-- The greatest number of a term. -/
def greatestTerm : Int := 999999

/-- The schema of a term, refused for a number that does not have six digits. -/
def termSchema (term : Int32) : Except Error String :=
  if leastTerm ≤ term.toInt ∧ term.toInt ≤ greatestTerm then
    .ok ("term_" ++ integerText term.toInt)
  else .error (.configuration (.termNumber term.toInt))

/-- The name of the table of weeks. -/
def termWeekName : String := "term_week"

/-- The declaration of the weeks of a term in a schema. -/
def termWeekDeclaration (schema : String) : Declaration where
  tablespace := "term"
  schema
  name := termWeekName
  description := "Start and end date of each week in the term."
  examples := some "week_nbr 0 is the partial week before classes begin"
  fields := [
    { name := "week_nbr", type := .integer, role := .partitionKey
      description := "Week number" },
    { name := "start_date", type := .localDate, role := .notNull
      description := "First day of the week" },
    { name := "end_date", type := .localDate, role := .notNull
      description := "Last day of the week" }]

/-- The table of weeks of a term, newly declared. -/
def declareTermWeek (term : Int32) : Except Error Table :=
  (termSchema term).bind fun schema => (termWeekDeclaration schema).build

/-- A registry with the tables of weeks of further terms, registered one after another. -/
def registerTerms (registry : Registry) : List Int32 → Except Error Registry
  | [] => .ok registry
  | term :: rest =>
      (declareTermWeek term).bind fun table =>
        (registry.extend table).bind fun registry => registerTerms registry rest

/-- The registry of the reference tables and of the given terms. -/
def buildRegistry (terms : List Int32) : Except Error Registry :=
  (Registry.empty.extendAll referenceTables).bind fun registry =>
    registerTerms registry terms

/-- The table of weeks of a term, looked up in a registry. -/
def termWeek (registry : Registry) (term : Int32) : Except Error Table :=
  (termSchema term).bind fun schema =>
    match registry.get? schema termWeekName with
    | some table => .ok table
    | none =>
        .error (.configuration
          (.termUnregistered (schema ++ "." ++ termWeekName) term.toInt))

end TableStore.School
