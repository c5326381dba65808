import TableStore.Proofs.Sql.Literal

/-!
# Values read back from their literals

A constant has a value in a column of a type when it is of that type; the null constant stands
for an empty cell in every column. The literal of a value has that value again in a column of
the value's type, so distinct values of one type never share a literal, and no value has the
null literal.
-/

namespace TableStore

open Sql

/-- A value as a server stores it. -/
def Value.canonical : Value → Value
  | .float x => .float x.canonical
  | .double x => .double x.canonical
  | value => value

namespace Sql.Literal

/-- The value of a constant in a column of a type. -/
def value? : ValueType → Literal → Option Value
  | .string, .string text => some (.string text)
  | .boolean, .boolean truth => some (.boolean truth)
  | .byte, .integer n => if (Int8.ofInt n).toInt = n then some (.byte (Int8.ofInt n)) else none
  | .integer, .integer n =>
      if (Int32.ofInt n).toInt = n then some (.integer (Int32.ofInt n)) else none
  | .long, .integer n => if (Int64.ofInt n).toInt = n then some (.long (Int64.ofInt n)) else none
  | .float, .real x => some (.float x)
  | .double, .double x => some (.double x)
  | .blob, .bytes content => some (.blob content)
  | .localDate, .date day => some (.localDate day)
  | .localTime, .time clock => some (.localTime clock)
  | .localDateTime, .timestamp day clock => some (.localDateTime day clock)
  | _, _ => none

/-- What a constant puts into a column of a type: nothing, or its value. -/
def cell? (type : ValueType) (literal : Literal) : Option (Option Value) :=
  if literal = .null then some none else (literal.value? type).map some

end Sql.Literal

namespace Value

@[simp]
theorem type_canonical (value : Value) : value.canonical.type = value.type := by
  cases value <;> rfl

theorem literal_canonical (value : Value) :
    value.literal.canonical = value.canonical.literal := by
  cases value <;> rfl

theorem literal_ne_null (value : Value) : value.literal ≠ .null := by
  cases value <;> simp [literal]

/-- The literal of a value has the value in a column of its type. -/
theorem value?_literal (value : Value) : value.literal.value? value.type = some value := by
  cases value <;> simp [literal, type, Literal.value?]

theorem value?_literal_canonical (value : Value) :
    value.literal.canonical.value? value.type = some value.canonical := by
  rw [literal_canonical, ← type_canonical, value?_literal]

theorem isStorable_literal {value : Value} (storable : value.storageIssue? = none) :
    value.literal.IsStorable := by
  cases value with
  | localDate day => exact storable
  | localTime clock => exact storable
  | localDateTime day clock => exact Option.or_eq_none_iff.mp storable
  | _ => trivial

end Value

/-- If each item has a result, a list of items has the list of the results. -/
theorem mapM_map_eq_some {α β γ : Type} {f : β → Option γ} {h : α → β} {g : α → γ}
    {items : List α} (each : ∀ x ∈ items, f (h x) = some (g x)) :
    (items.map h).mapM f = some (items.map g) := by
  induction items with
  | nil => rfl
  | cons x items ih =>
      have rest := ih fun y member => each y (List.mem_cons_of_mem x member)
      simp [each x List.mem_cons_self, rest]

namespace Field

theorem typeError?_eq_none_iff (field : Field) (value : Value) :
    field.typeError? value = none ↔ value.type = field.type ∧ value.storageIssue? = none := by
  unfold typeError?
  by_cases same : value.type = field.type <;> simp [same]

/-- The literal of an optional value that a field takes has the value again in the column of
the field, and is null only for nothing. -/
theorem cell?_literal (field : Field) (value : Option Value)
    (typed : ∀ v ∈ value, v.type = field.type) :
    (field.literal value).canonical.cell? field.type = some (value.map Value.canonical) ∧
      ((field.literal value).canonical = .null ↔ value = none) := by
  cases value with
  | none => exact ⟨rfl, iff_of_true rfl rfl⟩
  | some v =>
      have same : v.type = field.type := typed v rfl
      have notNull : v.literal.canonical ≠ .null := by
        rw [Value.literal_canonical]
        exact v.canonical.literal_ne_null
      rw [literal, if_pos same]
      constructor
      · rw [Literal.cell?, if_neg notNull, ← same, Value.value?_literal_canonical]
        rfl
      · simp [notNull]

end Field

end TableStore
