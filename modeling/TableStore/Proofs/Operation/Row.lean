import TableStore.Operation.Row
import TableStore.Proofs.Record

/-!
# What is read from rows

A row is read when each of its fields is, and rows are read when each of them is; otherwise the
first that is not decides the error. Whatever a server puts into the cells, a value that is read has
the type of its field; nothing more is known about it.
-/

namespace TableStore

open Server

/-! ## Outcomes of a list -/

theorem mapError_eq_ok_iff {ε ε' α : Type} {wrap : ε → ε'} {outcome : Except ε α} {value : α} :
    outcome.mapError wrap = .ok value ↔ outcome = .ok value := by
  cases outcome <;> simp [Except.mapError]

theorem mapError_eq_error_iff {ε ε' α : Type} {wrap : ε → ε'} {outcome : Except ε α} {error : ε'} :
    outcome.mapError wrap = .error error ↔ ∃ own, outcome = .error own ∧ error = wrap own := by
  cases outcome <;> simp [Except.mapError, eq_comm]

/-- Results are given for a list exactly when every item gives its own. -/
theorem mapM_eq_ok_iff {ε α β : Type} {give : α → Except ε β} {items : List α} {results : List β} :
    items.mapM give = .ok results ↔
      List.Forall₂ (fun item result => give item = .ok result) items results := by
  induction items generalizing results with
  | nil => simp [pure, Except.pure, eq_comm]
  | cons item rest ih =>
      rw [List.mapM_cons, List.forall₂_cons_left_iff]
      simp only [← ih]
      cases give item with
      | error error => simp [bind, Except.bind]
      | ok result =>
          cases rest.mapM give with
          | error error => simp [bind, Except.bind]
          | ok others => simp [bind, Except.bind, pure, Except.pure, eq_comm]

/-- There are results for a list exactly when every item gives one. -/
theorem exists_mapM_iff {ε α β : Type} {give : α → Except ε β} {items : List α} :
    (∃ results, items.mapM give = .ok results) ↔
      ∀ item ∈ items, ∃ result, give item = .ok result := by
  simp only [mapM_eq_ok_iff]
  induction items with
  | nil => simp
  | cons item rest ih =>
      rw [List.forall_mem_cons, ← ih]
      constructor
      · rintro ⟨results, given⟩
        cases given with
        | cons first others => exact ⟨⟨_, first⟩, _, others⟩
      · rintro ⟨⟨result, first⟩, results, others⟩
        exact ⟨result :: results, .cons first others⟩

theorem mapM_cons_eq_error_iff {ε α β : Type} {give : α → Except ε β} {item : α} {rest : List α}
    {error : ε} :
    (item :: rest).mapM give = .error error ↔
      give item = .error error ∨
        (∃ result, give item = .ok result) ∧ rest.mapM give = .error error := by
  rw [List.mapM_cons]
  cases give item with
  | error own => simp [bind, Except.bind]
  | ok result => cases rest.mapM give <;> simp [bind, Except.bind, pure, Except.pure]

/-- Going through a list fails exactly with the error of the first item that gives one. -/
theorem mapM_eq_error_iff {ε α β : Type} {give : α → Except ε β} {items : List α} {error : ε} :
    items.mapM give = .error error ↔
      ∃ before item after, items = before ++ item :: after ∧
        (∀ earlier ∈ before, ∃ result, give earlier = .ok result) ∧ give item = .error error := by
  induction items with
  | nil => simp [pure, Except.pure]
  | cons first rest ih =>
      rw [mapM_cons_eq_error_iff, ih]
      constructor
      · rintro (fails | ⟨passes, before, item, after, rfl, passed, fails⟩)
        · exact ⟨[], first, rest, rfl, by simp, fails⟩
        · refine ⟨first :: before, item, after, rfl, ?_, fails⟩
          exact List.forall_mem_cons.mpr ⟨passes, passed⟩
      · rintro ⟨before, item, after, parts, passed, fails⟩
        cases before with
        | nil =>
            cases parts
            exact .inl fails
        | cons earlier before =>
            cases parts
            rw [List.forall_mem_cons] at passed
            exact .inr ⟨passed.1, before, item, after, rfl, passed.2, fails⟩

theorem readFields_eq_mapM (table : String) (columns : List String) (row : List Cell)
    (fields : List Field) :
    readFields table columns row fields = fields.mapM (readField table columns row) := by
  induction fields with
  | nil => rfl
  | cons field rest ih =>
      rw [readFields, List.mapM_cons, ← ih]
      cases readField table columns row field <;> rfl

theorem Record.ofRows_eq_mapM (table : Table) (columns : List String) (rows : List (List Cell)) :
    ofRows table columns rows = rows.mapM (ofRow table columns) := by
  induction rows with
  | nil => rfl
  | cons row rest ih =>
      rw [ofRows, List.mapM_cons, ← ih]
      cases ofRow table columns row <;> rfl

/-! ## What is read -/

/-- A cell that is read at a type gives a value of the type, or nothing. -/
theorem type_of_readCell {type : ValueType} {cell : Cell} {value : Option Value}
    (read : readCell type cell = .ok value) : ∀ v ∈ value, v.type = type := by
  rintro v rfl
  unfold readCell at read
  split at read
  -- bytes are read from a wider type, if they fit
  all_goals try split at read
  all_goals cases read
  all_goals rfl

theorem type_of_readField {table : String} {columns : List String} {row : List Cell}
    {field : Field} {value : Option Value} (read : readField table columns row field = .ok value) :
    ∀ v ∈ value, v.type = field.type := by
  unfold readField at read
  rw [mapError_eq_ok_iff] at read
  split at read
  · exact type_of_readCell read
  · cases read

/-- A row gives a value or nothing for each field. -/
theorem length_of_readFields {table : String} {columns : List String} {row : List Cell}
    {fields : List Field} {values : List (Option Value)}
    (read : readFields table columns row fields = .ok values) :
    values.length = fields.length := by
  rw [readFields_eq_mapM, mapM_eq_ok_iff] at read
  exact read.length_eq.symm

/-- The values that are read from a row have the types of their fields. -/
theorem types_of_readFields {table : String} {columns : List String} {row : List Cell}
    {fields : List Field} {values : List (Option Value)}
    (read : readFields table columns row fields = .ok values) :
    ∀ entry ∈ fields.zip values, ∀ v ∈ entry.2, v.type = entry.1.type := by
  rw [readFields_eq_mapM, mapM_eq_ok_iff] at read
  intro entry member
  exact type_of_readField (List.forall₂_zip read member)

namespace Record

/-- Whether every value of a record has the type of its field. -/
def IsTyped (record : Record) : Prop :=
  ∀ entry ∈ record.entries, ∀ v ∈ entry.2, v.type = entry.1.type

variable {table : Table} {columns : List String}

/-- What is read from a row passes as a record: there is a value for each field, of its type. -/
theorem ofRow_eq_ok_iff {row : List Cell} {record : Record} :
    ofRow table columns row = .ok record ↔
      record.table = table ∧
        readFields table.qualifiedName columns row table.fields = .ok record.values := by
  unfold ofRow
  cases read : readFields table.qualifiedName columns row table.fields with
  | error error => simp
  | ok values =>
      have aligned := length_of_readFields read
      simp only [restore, checked_eq_ok_iff, fill_eq_self aligned, Except.ok.injEq]
      constructor
      · rintro ⟨-, own, held, -⟩
        exact ⟨own, held.symm⟩
      · rintro ⟨own, rfl⟩
        refine ⟨aligned.le, own, rfl, fun entry member => ?_⟩
        rw [entries, own] at member
        have typed := types_of_readFields read entry member
        unfold Field.mismatch?
        cases held : entry.2 with
        | none => rfl
        | some value => exact if_neg (not_not.mpr (typed value held))

theorem isTyped_of_ofRow {row : List Cell} {record : Record}
    (read : ofRow table columns row = .ok record) : record.IsTyped := by
  obtain ⟨own, given⟩ := ofRow_eq_ok_iff.mp read
  rw [IsTyped, entries, own]
  exact types_of_readFields given

/-- The values of the records that are read have the types of their fields. -/
theorem isTyped_of_ofRows {rows : List (List Cell)} {records : List Record}
    (read : ofRows table columns rows = .ok records) : ∀ record ∈ records, record.IsTyped := by
  rw [ofRows_eq_mapM, mapM_eq_ok_iff] at read
  induction read with
  | nil => simp
  | cons first _ ih => exact List.forall_mem_cons.mpr ⟨isTyped_of_ofRow first, ih⟩

/-! ## Rows that cannot be read -/

/-- A row that gives no record has a field that cannot be read, because what can be read passes. -/
theorem ofRow_eq_error_iff_readFields {row : List Cell} {error : Error} :
    ofRow table columns row = .error error ↔
      readFields table.qualifiedName columns row table.fields = .error error := by
  cases read : readFields table.qualifiedName columns row table.fields with
  | error first => simp [ofRow, read]
  | ok values =>
      have passes : ofRow table columns row = .ok ⟨table, values, length_of_readFields read⟩ :=
        ofRow_eq_ok_iff.mpr ⟨rfl, read⟩
      simp [passes]

/-- The error of a row is about a field of the table. -/
theorem decode_of_ofRow {row : List Cell} {error : Error}
    (failed : ofRow table columns row = .error error) :
    ∃ field fault, error = .decode table.qualifiedName field fault := by
  rw [ofRow_eq_error_iff_readFields, readFields_eq_mapM, mapM_eq_error_iff] at failed
  rcases failed with ⟨before, field, after, -, -, unread⟩
  unfold readField at unread
  rcases mapError_eq_error_iff.mp unread with ⟨fault, -, own⟩
  exact ⟨field.name, fault, own⟩

theorem decode_of_ofRows {rows : List (List Cell)} {error : Error}
    (failed : ofRows table columns rows = .error error) :
    ∃ field fault, error = .decode table.qualifiedName field fault := by
  rw [ofRows_eq_mapM, mapM_eq_error_iff] at failed
  rcases failed with ⟨before, row, after, -, -, unread⟩
  exact decode_of_ofRow unread

end Record

end TableStore
