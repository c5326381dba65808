import TableStore.Proofs.Field.Acceptance
import TableStore.Proofs.Record
import TableStore.School.Reference

/-!
# Legal rows

A row is legal in a table when there is a field for every value and each field accepts what the row
gives it, which is nothing beyond the row's end. A record is made of exactly the legal rows, and
against any other row stands the first field that refuses what it is given.
-/

namespace TableStore

/-- What a row gives to the field at a position. -/
def Record.given (values : List (Option Value)) (index : Nat) : Option Value :=
  values[index]?.join

namespace Table

/-- Whether a row is legal in a table. -/
structure Permits (table : Table) (values : List (Option Value)) : Prop where
  room : values.length ≤ table.fieldCount
  accepts : ∀ index field, table.field? index = some field →
    field.Accepts (Record.given values index)

/-- Why a row is not legal in a table. -/
inductive Rejects (table : Table) (values : List (Option Value)) : Error → Prop
  | tooMany (noRoom : table.fieldCount < values.length) :
      table.Rejects values (.configuration
        (.tooManyValues table.qualifiedName values.length table.fieldCount))
  | field {index : Nat} {field : Field} {error : Error} (room : values.length ≤ table.fieldCount)
      (found : table.field? index = some field)
      (accepts : ∀ before < index, ∀ earlier, table.field? before = some earlier →
        earlier.Accepts (Record.given values before))
      (refuses : field.Refuses (Record.given values index) error) :
      table.Rejects values error

end Table

/-- What a record holds that was made of a row. -/
structure Record.Holds (record : Record) (table : Table) (values : List (Option Value)) : Prop where
  table_eq : record.table = table
  values_eq : record.values =
    values ++ List.replicate (table.fieldCount - values.length) none
  value?_eq : ∀ index, record.value? index = given values index
  valueNamed?_eq : ∀ index field, table.field? index = some field →
    record.valueNamed? field.name = record.value? index

/-- What is found first in a list stands at a position before which nothing is found. -/
theorem findSome?_eq_some_iff_getElem? {α β : Type} {items : List α} {find : α → Option β}
    {result : β} :
    items.findSome? find = some result ↔
      ∃ (index : Nat) (item : α), items[index]? = some item ∧ find item = some result ∧
        ∀ before < index, ∀ earlier, items[before]? = some earlier → find earlier = none := by
  rw [List.findSome?_eq_some_iff]
  constructor
  · rintro ⟨front, item, back, rfl, finds, nothing⟩
    refine ⟨front.length, item, by simp, finds, ?_⟩
    intro before less earlier place
    rw [List.getElem?_append_left less] at place
    exact nothing earlier (List.mem_of_getElem? place)
  · rintro ⟨index, item, place, finds, nothing⟩
    rcases List.getElem?_eq_some_iff.mp place with ⟨inside, rfl⟩
    refine ⟨items.take index, items[index], items.drop (index + 1), ?_, finds, ?_⟩
    · rw [List.cons_getElem_drop_succ, List.take_append_drop]
    · intro earlier member
      rcases List.mem_iff_getElem?.mp member with ⟨before, place⟩
      rw [List.getElem?_take] at place
      split at place
      · exact nothing before ‹_› earlier place
      · cases place

namespace Record

variable {table : Table} {values : List (Option Value)}

/-- Filling up a row with nothing gives no field anything else. -/
theorem given_fill (table : Table) (values : List (Option Value)) (index : Nat) :
    given (fill table values) index = given values index := by
  unfold given fill
  rcases Nat.lt_or_ge index values.length with inside | beyond
  · rw [List.getElem?_append_left inside]
  · rw [List.getElem?_append_right beyond, List.getElem?_replicate, List.getElem?_eq_none beyond]
    split <;> rfl

/-- The field at a position is paired with what the row gives it. -/
theorem getElem?_zip_fill (room : values.length ≤ table.fieldCount) {index : Nat}
    {entry : Field × Option Value} :
    (table.fields.zip (fill table values))[index]? = some entry ↔
      table.field? index = some entry.1 ∧ given values index = entry.2 := by
  rw [List.getElem?_zip_eq_some, Table.field?, ← given_fill table, given]
  constructor
  · rintro ⟨found, place⟩
    exact ⟨found, by rw [place, Option.join_some]⟩
  · rintro ⟨found, gives⟩
    have inside : index < (fill table values).length := by
      rw [length_fill table values room]
      exact (List.getElem?_eq_some_iff.mp found).1
    rw [List.getElem?_eq_getElem inside, Option.join_some] at gives
    exact ⟨found, by rw [List.getElem?_eq_getElem inside, gives]⟩

theorem valuesError?_eq_none_iff (room : values.length ≤ table.fieldCount) :
    valuesError? Field.error? table.fields (fill table values) = none ↔ table.Permits values := by
  rw [valuesError?, List.findSome?_eq_none_iff]
  constructor
  · intro passes
    refine ⟨room, fun index field found => ?_⟩
    apply Field.error?_eq_none_iff_accepts.mp
    exact passes (field, given values index)
      (List.mem_of_getElem? ((getElem?_zip_fill room).mpr ⟨found, rfl⟩))
  · intro permits entry member
    rcases List.mem_iff_getElem?.mp member with ⟨index, place⟩
    rcases (getElem?_zip_fill room).mp place with ⟨found, gives⟩
    apply Field.error?_eq_none_iff_accepts.mpr
    rw [← gives]
    exact permits.accepts index entry.1 found

theorem valuesError?_eq_some_iff (room : values.length ≤ table.fieldCount) {error : Error} :
    valuesError? Field.error? table.fields (fill table values) = some error ↔
      table.Rejects values error := by
  rw [valuesError?, findSome?_eq_some_iff_getElem?]
  constructor
  · rintro ⟨index, ⟨field, value⟩, place, refuses, passes⟩
    rcases (getElem?_zip_fill room).mp place with ⟨found, rfl⟩
    refine .field room found ?_ (Field.error?_eq_some_iff_refuses.mp refuses)
    intro before less earlier earlierFound
    apply Field.error?_eq_none_iff_accepts.mp
    exact passes before less (earlier, given values before)
      ((getElem?_zip_fill room).mpr ⟨earlierFound, rfl⟩)
  · rintro (noRoom | @⟨index, field, _, _, found, accepts, refuses⟩)
    · omega
    · refine ⟨index, (field, given values index), (getElem?_zip_fill room).mpr ⟨found, rfl⟩,
        Field.error?_eq_some_iff_refuses.mpr refuses, ?_⟩
      intro before less earlier place
      rcases (getElem?_zip_fill room).mp place with ⟨earlierFound, gives⟩
      apply Field.error?_eq_none_iff_accepts.mpr
      rw [← gives]
      exact accepts before less earlier.1 earlierFound

/-- A record is made of a row exactly when the row is legal. -/
theorem exists_build_iff : (∃ record, build table values = .ok record) ↔ table.Permits values := by
  unfold build checked
  split
  · rename_i room
    rw [← valuesError?_eq_none_iff room]
    split <;> simp [*]
  · rename_i noRoom
    constructor
    · rintro ⟨record, ⟨⟩⟩
    · intro permits
      exact absurd permits.room noRoom

/-- The error is why the row is not legal. -/
theorem build_eq_error_iff {error : Error} :
    build table values = .error error ↔ table.Rejects values error := by
  unfold build checked
  split
  · rename_i room
    rw [← valuesError?_eq_some_iff room]
    split <;> simp [*, eq_comm]
  · rename_i noRoom
    constructor
    · rintro ⟨⟩
      exact .tooMany (not_le.mp noRoom)
    · rintro (_ | ⟨room⟩)
      · rfl
      · exact absurd room noRoom

/-- A record holds the row that it was made of. -/
theorem holds_of_build {record : Record} (built : build table values = .ok record) :
    record.Holds table values := by
  obtain ⟨-, own, filled, -⟩ := checked_eq_ok_iff.mp built
  constructor
  · exact own
  · exact filled
  · intro index
    rw [value?, filled]
    exact given_fill table values index
  · intro index field found
    rw [valueNamed?, own, Table.fieldIndex?_eq_some found, Option.bind_some]

/-- Records are made of exactly the legal rows, they hold what the rows give, and the error against
any other row is why it is not legal. -/
theorem accepts_exactly_legal_rows (table : Table) (values : List (Option Value)) :
    ((∃ record, build table values = .ok record) ↔ table.Permits values) ∧
      (∀ record, build table values = .ok record → record.Holds table values) ∧
      ∀ error, build table values = .error error ↔ table.Rejects values error :=
  ⟨exists_build_iff, fun _ => holds_of_build, fun _ => build_eq_error_iff⟩

/-- A hold whose last field is left out is a legal row. One whose severity breaks both its
constraints is refused by the first of them, although a later field is empty. -/
theorem legal_rows_of_holds :
    (∃ record, build School.holdType [some (.string "06"), some (.string "N"),
        some (.string "DISCIPLINE"), some (.integer 1), some (.integer 2), some (.integer 3)] =
      .ok record ∧ record.values.length = 7 ∧ record.valueNamed? "severity" = some (.string "N") ∧
        record.valueNamed? "times_to_display" = none) ∧
    School.holdType.Rejects [some (.string "06"), some (.string "FN")]
      (.constraintViolation "severity" "severity_length" (.length 2 1 1)) := by
  constructor
  · have holds := (accepts_exactly_legal_rows School.holdType [some (.string "06"),
      some (.string "N"), some (.string "DISCIPLINE"), some (.integer 1), some (.integer 2),
      some (.integer 3)]).2.1 _ rfl
    refine ⟨_, rfl, ?_, ?_, ?_⟩
    · rw [holds.values_eq]
      rfl
    · exact (holds.valueNamed?_eq 1 _ rfl).trans (holds.value?_eq 1)
    · exact (holds.valueNamed?_eq 6 _ rfl).trans (holds.value?_eq 6)
  · exact ((accepts_exactly_legal_rows School.holdType _).2.2 _).mp (by decide +kernel)

end Record

end TableStore
