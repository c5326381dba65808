import TableStore.Proofs.Record

/-!
# Updates under the columns of a table

An update that was built changes at least one field, and every value it sets suits its field.
Its assignments name the fields that change in the order of the fields, each once, with the
literal of the new value, and no field that keeps its value.
-/

namespace TableStore

open Sql

/-- Whether assignments do to a field what an update says: leave it out, make it null, or give
it the value. -/
def FieldUpdate.IsDoneBy (assignments : List (String × Literal)) (field : Field) :
    FieldUpdate → Prop
  | .keep => field.name ∉ assignments.map Prod.fst
  | .setNull => (field.name, .null) ∈ assignments
  | .set value =>
      ∃ literal, (field.name, literal) ∈ assignments ∧ literal ≠ .null ∧
        literal.value? field.type = some value.canonical

namespace Updates

/-- The new value of a field that changes. -/
def changeOf? : Field × FieldUpdate → Option (Field × Option Value)
  | (_, .keep) => none
  | (field, .setNull) => some (field, none)
  | (field, .set value) => some (field, some value)

theorem changes_eq (updates : Updates) :
    updates.changes = (updates.table.fields.zip updates.updates).filterMap changeOf? := by
  unfold changes
  congr 1
  funext ⟨field, update⟩
  cases update <;> rfl

theorem fst_of_changeOf? {entry : Field × FieldUpdate} {change : Field × Option Value}
    (changed : changeOf? entry = some change) : change.1 = entry.1 := by
  obtain ⟨field, update⟩ := entry
  cases update <;> cases changed <;> rfl

/-- The images of what is kept of a list stand in the list of the images. -/
theorem sublist_map_filterMap {α β γ : Type} {f : α → Option β} {g : β → γ} {h : α → γ}
    (images : ∀ {x y}, f x = some y → g y = h x) (items : List α) :
    ((items.filterMap f).map g).Sublist (items.map h) := by
  induction items with
  | nil => exact List.Sublist.refl _
  | cons x items ih =>
      cases kept : f x with
      | none =>
          rw [List.filterMap_cons_none kept]
          exact ih.cons _
      | some y =>
          rw [List.filterMap_cons_some kept, List.map_cons, List.map_cons, images kept]
          exact ih.cons_cons _

variable (updates : Updates)

/-- The changed fields stand in the order of the fields, each once. -/
theorem changes_sublist :
    (updates.changes.map fun change => change.1.name).Sublist updates.table.fieldNames := by
  have names : updates.table.fieldNames =
      (updates.table.fields.zip updates.updates).map fun entry => entry.1.name := by
    have fields := List.map_fst_zip updates.aligned.ge
    rw [Table.fieldNames]
    nth_rewrite 1 [← fields]
    rw [List.map_map]
    rfl
  rw [changes_eq, names]
  exact sublist_map_filterMap (fun changed => by rw [fst_of_changeOf? changed]) _

/-- The assignments that a server reads. -/
def readAssignments : List (String × Literal) :=
  updates.assignments.map fun (column, literal) => (column, literal.canonical)

theorem readAssignments_eq :
    updates.readAssignments = updates.changes.map fun change =>
      (change.1.name, (change.1.literal change.2).canonical) := by
  rw [readAssignments, assignments, List.map_map]
  rfl

theorem map_fst_readAssignments :
    updates.readAssignments.map Prod.fst = updates.changes.map fun change => change.1.name := by
  rw [readAssignments_eq, List.map_map]
  rfl

variable {updates}

theorem mem_changes {field : Field} {value : Option Value} {update : FieldUpdate}
    (member : (field, update) ∈ updates.table.fields.zip updates.updates)
    (changed : changeOf? (field, update) = some (field, value)) :
    (field.name, (field.literal value).canonical) ∈ updates.readAssignments := by
  rw [readAssignments_eq, changes_eq]
  exact List.mem_map.mpr ⟨_, List.mem_filterMap.mpr ⟨_, member, changed⟩, rfl⟩

/-- The assignments do to every field what the update says. -/
theorem isDoneBy_readAssignments
    (typed : ∀ field value,
      (field, .set value) ∈ updates.table.fields.zip updates.updates → value.type = field.type)
    {field : Field} {update : FieldUpdate}
    (member : (field, update) ∈ updates.table.fields.zip updates.updates) :
    update.IsDoneBy updates.readAssignments field := by
  cases update with
  | keep =>
      intro named
      rw [map_fst_readAssignments, changes_eq] at named
      obtain ⟨change, changeMem, sameName⟩ := List.mem_map.mp named
      obtain ⟨entry, entryMem, changed⟩ := List.mem_filterMap.mp changeMem
      rw [fst_of_changeOf? changed] at sameName
      rw [Table.eq_of_name_eq entryMem member sameName] at changed
      cases changed
  | setNull => exact mem_changes member rfl
  | set value =>
      have sameType : value.type = field.type := typed field value member
      have read := field.cell?_literal (some value) fun v held => by
        rw [← Option.mem_some_iff.mp held, sameType]
      refine ⟨_, mem_changes member rfl, fun isNull => ?_, ?_⟩
      · cases read.2.mp isNull
      · rw [Field.literal, if_pos sameType, ← sameType, Value.value?_literal_canonical]

/-! ## Building -/

/-- What a list of assignments does to a field. -/
def updateOf (given : List Assignment) (field : Field) : FieldUpdate :=
  match given.lookup field.name with
  | none => .keep
  | some value => .ofValue value

/-- Whether assignments make an update of a table: there is one, each names a field that takes the
value, and no two name the same field. -/
structure IsAssignable (table : Table) (given : List Assignment) : Prop where
  ne_nil : given ≠ []
  suits : ∀ assignment ∈ given, ∃ field ∈ table.fields,
    field.name = assignment.1 ∧ field.error? assignment.2 = none
  nodup : (given.map Prod.fst).Nodup

variable {table : Table} {given : List Assignment}

theorem place?_eq_some_iff {name : String} {index : Nat} {field : Field} :
    place? table name = some (index, field) ↔
      table.fields[index]? = some field ∧ field.name = name := by
  simp only [place?, Table.field?, Option.bind_eq_some_iff, Option.map_eq_some_iff,
    Table.fieldIndex?_eq_some_iff, Prod.mk.injEq]
  constructor
  · rintro ⟨_, ⟨own, ownFound, sameName⟩, other, found, rfl, rfl⟩
    cases ownFound.symm.trans found
    exact ⟨found, sameName⟩
  · rintro ⟨found, sameName⟩
    exact ⟨index, ⟨field, found, sameName⟩, field, found, rfl, rfl⟩

/-- Nothing is found under a name exactly when nothing is assigned to it. -/
theorem lookup_eq_none_iff_notMem {name : String} :
    given.lookup name = none ↔ name ∉ given.map Prod.fst := by
  rw [List.lookup_eq_none_iff]
  constructor
  · rintro absent named
    obtain ⟨assignment, member, rfl⟩ := List.mem_map.mp named
    simpa using absent assignment member
  · intro absent assignment member
    have other : name ≠ assignment.1 := by
      rintro rfl
      exact absent (List.mem_map_of_mem member)
    simpa using other

theorem updateOf_eq_keep_iff {field : Field} :
    updateOf given field = .keep ↔ field.name ∉ given.map Prod.fst := by
  rw [← lookup_eq_none_iff_notMem, updateOf]
  rcases given.lookup field.name with _ | _ | value <;> simp [FieldUpdate.ofValue]

/-- Among assignments to distinct fields, a field is given what stands beside its name. -/
theorem updateOf_eq_ofValue_iff (distinct : (given.map Prod.fst).Nodup) (field : Field)
    (value : Option Value) :
    updateOf given field = .ofValue value ↔ (field.name, value) ∈ given := by
  rw [← lookup_eq_some_iff_mem distinct, updateOf]
  rcases given.lookup field.name with _ | _ | own <;> cases value <;> simp [FieldUpdate.ofValue]

theorem updateOf_append_of_ne {name : String} {value : Option Value} {field : Field}
    (other : field.name ≠ name) :
    updateOf (given ++ [(name, value)]) field = updateOf given field := by
  have absent : (field.name == name) = false := beq_false_of_ne other
  rw [updateOf, updateOf, List.lookup_append]
  cases given.lookup field.name <;> simp [List.lookup_cons, absent]

/-- One more assignment, to a field that none was made to, changes the update of this field
alone. -/
theorem set_map_updateOf {index : Nat} {field : Field} (found : table.fields[index]? = some field)
    (fresh : field.name ∉ given.map Prod.fst) (value : Option Value) :
    (table.fields.map (updateOf given)).set index (.ofValue value) =
      table.fields.map (updateOf (given ++ [(field.name, value)])) := by
  apply List.ext_getElem?
  intro position
  rw [List.getElem?_set, List.getElem?_map, List.getElem?_map, List.length_map]
  by_cases same : index = position
  · subst same
    have inside := (List.getElem?_eq_some_iff.mp found).1
    have absent := lookup_eq_none_iff_notMem.mpr fresh
    rw [if_pos rfl, if_pos inside, found, Option.map_some, updateOf, List.lookup_append, absent,
      Option.none_or, List.lookup_cons, beq_self_eq_true]
  · rw [if_neg same]
    cases other : table.fields[position]? with
    | none => rfl
    | some own =>
        have apart : own.name ≠ field.name := fun sameName => same <| by
          have ownPlace := Table.fieldIndex?_eq_some other
          rw [sameName, Table.fieldIndex?_eq_some found] at ownPlace
          exact Option.some.inj ownPlace
        rw [Option.map_some, Option.map_some, updateOf_append_of_ne apart]

/-- After other assignments, one is carried out if it names a field that takes the value and that
none of the others named. -/
theorem assign_cons_eq_ok_iff {done rest : List Assignment} {name : String} {value : Option Value}
    {result : List FieldUpdate} :
    assign table (table.fields.map (updateOf done)) ((name, value) :: rest) = .ok result ↔
      (∃ field ∈ table.fields, field.name = name ∧ field.error? value = none) ∧
        name ∉ done.map Prod.fst ∧
          assign table (table.fields.map (updateOf (done ++ [(name, value)]))) rest =
            .ok result := by
  rw [assign]
  cases place : place? table name with
  | none =>
      apply iff_of_false (by simp)
      rintro ⟨⟨field, declared, sameName, -⟩, -⟩
      obtain ⟨index, found⟩ := List.mem_iff_getElem?.mp declared
      cases place.symm.trans (place?_eq_some_iff.mpr ⟨found, sameName⟩)
  | some entry =>
      obtain ⟨index, field⟩ := entry
      obtain ⟨found, rfl⟩ := place?_eq_some_iff.mp place
      have takes : (∃ own ∈ table.fields, own.name = field.name ∧ own.error? value = none) ↔
          field.error? value = none := by
        constructor
        · rintro ⟨own, declared, sameName, takes⟩
          obtain ⟨position, ownFound⟩ := List.mem_iff_getElem?.mp declared
          cases place.symm.trans (place?_eq_some_iff.mpr ⟨ownFound, sameName⟩)
          exact takes
        · intro takes
          exact ⟨field, List.mem_of_getElem? found, rfl, takes⟩
      have kept : (table.fields.map (updateOf done))[index]? = some .keep ↔
          field.name ∉ done.map Prod.fst := by
        rw [List.getElem?_map, found, Option.map_some, Option.some.injEq, updateOf_eq_keep_iff]
      rw [takes]
      dsimp only
      split
      · rename_i error refused
        simp [refused]
      · rename_i accepted
        split
        · rename_i slot
          rw [set_map_updateOf found (kept.mp slot)]
          simp [accepted, kept.mp slot]
        · rename_i slot
          apply iff_of_false (by simp)
          rintro ⟨-, fresh, -⟩
          exact slot (kept.mpr fresh)

/-- Assignments are carried out after others if each names a field that takes the value and no
field is named again. They do to each field what is assigned to it. -/
theorem assign_eq_ok_iff {done : List Assignment} (earlier : (done.map Prod.fst).Nodup)
    {result : List FieldUpdate} :
    assign table (table.fields.map (updateOf done)) given = .ok result ↔
      (∀ assignment ∈ given, ∃ field ∈ table.fields,
          field.name = assignment.1 ∧ field.error? assignment.2 = none) ∧
        ((done ++ given).map Prod.fst).Nodup ∧
          result = table.fields.map (updateOf (done ++ given)) := by
  induction given generalizing done with
  | nil => simp [assign, earlier, eq_comm]
  | cons assignment rest ih =>
      obtain ⟨name, value⟩ := assignment
      have joined : done ++ (name, value) :: rest = done ++ [(name, value)] ++ rest := by simp
      rw [assign_cons_eq_ok_iff, List.forall_mem_cons, and_assoc, joined]
      apply and_congr_right
      intro _
      have later : ((done ++ [(name, value)]).map Prod.fst).Nodup ↔ name ∉ done.map Prod.fst := by
        rw [List.map_append, List.map_singleton, (List.perm_append_singleton _ _).nodup_iff,
          List.nodup_cons, and_iff_left earlier]
      by_cases fresh : name ∉ done.map Prod.fst
      · rw [ih (later.mpr fresh), and_iff_right fresh]
      · apply iff_of_false fun carried => fresh carried.1
        rintro ⟨-, distinct, -⟩
        rw [List.map_append, List.nodup_append] at distinct
        exact fresh (later.mp distinct.1)

/-- An update is made of assignments that are assignable, and does to the fields of its table what
they say. -/
theorem build_eq_ok_iff :
    build table given = .ok updates ↔
      IsAssignable table given ∧ updates.table = table ∧
        updates.updates = table.fields.map (updateOf given) := by
  have initial : List.replicate table.fieldCount .keep = table.fields.map (updateOf []) := by
    rw [Table.fieldCount, ← List.map_const']
    rfl
  have carried := @assign_eq_ok_iff table given [] List.nodup_nil
  rw [← initial, List.nil_append] at carried
  unfold build
  constructor
  · intro built
    split at built
    · cases built
    · rename_i nonempty
      split at built
      · cases built
      · rename_i result assigned
        cases built
        obtain ⟨suits, distinct, rfl⟩ := carried.mp assigned
        exact ⟨⟨by simpa using nonempty, suits, distinct⟩, rfl, rfl⟩
  · obtain ⟨own, result, aligned⟩ := updates
    rintro ⟨assignable, sameTable, rfl⟩
    dsimp only at sameTable
    subst sameTable
    rw [if_neg (by simpa using assignable.ne_nil)]
    have assigned := carried.mpr ⟨assignable.suits, assignable.nodup, rfl⟩
    split
    · rename_i error refused
      cases refused.symm.trans assigned
    · rename_i result found
      cases found.symm.trans assigned
      rfl

variable (built : build table given = .ok updates)

include built

/-- The fields of a built update with what is done to each. -/
theorem zip_of_build :
    updates.table.fields.zip updates.updates =
      table.fields.map fun field => (field, updateOf given field) := by
  obtain ⟨-, rfl, entries⟩ := build_eq_ok_iff.mp built
  have paired := List.zip_map' (f := id) (g := updateOf given) (l := updates.table.fields)
  rw [List.map_id] at paired
  rw [entries]
  exact paired

/-- The values that a built update sets suit their fields. -/
theorem typed_of_build (field : Field) (value : Value)
    (member : (field, .set value) ∈ updates.table.fields.zip updates.updates) :
    value.type = field.type ∧ value.storageIssue? = none := by
  obtain ⟨assignable, rfl, -⟩ := build_eq_ok_iff.mp built
  rw [zip_of_build built] at member
  obtain ⟨own, declared, same⟩ := List.mem_map.mp member
  obtain ⟨rfl, assigned⟩ := Prod.mk.inj same
  have given := (updateOf_eq_ofValue_iff assignable.nodup _ (some value)).mp assigned
  obtain ⟨other, otherDeclared, sameName, suits⟩ := assignable.suits _ given
  have found := Table.fieldNamed?_eq_some otherDeclared
  rw [sameName, Table.fieldNamed?_eq_some declared] at found
  cases found
  exact Field.typed_of_error?_eq_none suits value rfl

/-- So do the new values of the fields that change. -/
theorem typed_of_mem_changes {field : Field} {value : Option Value}
    (member : (field, value) ∈ updates.changes) :
    ∀ v ∈ value, v.type = field.type ∧ v.storageIssue? = none := by
  rw [changes_eq] at member
  obtain ⟨⟨own, update⟩, entryMem, changed⟩ := List.mem_filterMap.mp member
  rintro v rfl
  cases update with
  | keep => cases changed
  | setNull => cases changed
  | set new =>
      cases changed
      exact typed_of_build built field v entryMem

/-- The changes of a built update are what is assigned to each field. -/
theorem changes_of_build :
    updates.changes = table.fields.filterMap fun field =>
      (given.lookup field.name).map fun value => (field, value) := by
  rw [changes_eq, zip_of_build built, List.filterMap_map]
  apply List.filterMap_congr
  intro field _
  rw [Function.comp_apply, updateOf]
  rcases given.lookup field.name with _ | _ | value <;> rfl

/-- An update that was built changes a field. -/
theorem changes_ne_nil_of_build : updates.changes ≠ [] := by
  obtain ⟨assignable, -, -⟩ := build_eq_ok_iff.mp built
  obtain ⟨assignment, assigned⟩ := List.exists_mem_of_ne_nil given assignable.ne_nil
  obtain ⟨field, declared, sameName, -⟩ := assignable.suits assignment assigned
  have found := (lookup_eq_some_iff_mem assignable.nodup).mpr assigned
  rw [changes_of_build built]
  apply List.ne_nil_of_mem (a := (field, assignment.2))
  exact List.mem_filterMap.mpr ⟨field, declared, by rw [sameName, found, Option.map_some]⟩

end Updates

end TableStore
