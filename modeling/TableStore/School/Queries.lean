import TableStore.School.Reference
import TableStore.Selection

/-!
# Frequent selections

The selections that the application makes again and again: terms by number, the active
term, and weeks by number. Each selects the rows whose value of one integer field is
in a list.
-/

namespace TableStore.School

/-- The rows of a table whose value of a field is in a list of integers. -/
def integerIn (table : Table) (field : String) (values : List Int32) :
    Except Error Selection :=
  match table.fieldNamed? field with
  | none => .error (.binding table.qualifiedName field)
  | some own =>
      (Criterion.numeric own .exactIn (values.map .integer)).bind fun criterion =>
        Selection.build table [criterion]

/-- The terms with the given numbers. -/
def termsById (table : Table) (terms : List Int32) : Except Error Selection :=
  integerIn table "term" terms

/-- The active term, whose index is zero. -/
def activeTerm (table : Table) : Except Error Selection :=
  integerIn table "active_index" [0]

/-- The weeks with the given numbers. -/
def weeks (table : Table) (numbers : List Int32) : Except Error Selection :=
  integerIn table "week_nbr" numbers

end TableStore.School
