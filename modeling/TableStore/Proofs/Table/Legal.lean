import Mathlib.Data.List.Basic
import Mathlib.Data.String.Basic
import TableStore.Table.Basic

/-!
# Legal declarations

What a declaration must be like is said here without the order in which it is checked: its names
are legal, its schema has no reserved ending, it has fields, no two of them have one name, and
the constraints of a field are of its type and have different names.

A declaration is accepted exactly when it is legal, and the index written down on the way lists
each field under its name with its position.
-/

namespace TableStore

namespace Name

/-- Whether a text begins with a small letter, goes on with small letters, digits and underscores,
and has at most sixty-three bytes. -/
def IsLegal (name : String) : Prop :=
  ∃ first rest, name.toList = first :: rest ∧ ('a' ≤ first ∧ first ≤ 'z') ∧
    (∀ c ∈ rest, ('a' ≤ c ∧ c ≤ 'z') ∨ ('0' ≤ c ∧ c ≤ '9') ∨ c = '_') ∧
    name.utf8ByteSize ≤ 63

theorem isStart_iff (c : Char) : isStart c = true ↔ 'a' ≤ c ∧ c ≤ 'z' := by
  change (decide ('a' ≤ c) && decide (c ≤ 'z')) = true ↔ _
  rw [Bool.and_eq_true, decide_eq_true_eq, decide_eq_true_eq]

theorem isPart_iff (c : Char) :
    isPart c = true ↔ ('a' ≤ c ∧ c ≤ 'z') ∨ ('0' ≤ c ∧ c ≤ '9') ∨ c = '_' := by
  have digit : c.isDigit = true ↔ '0' ≤ c ∧ c ≤ '9' := by
    change (decide ('0' ≤ c) && decide (c ≤ '9')) = true ↔ _
    rw [Bool.and_eq_true, decide_eq_true_eq, decide_eq_true_eq]
  have letter := isStart_iff c
  rw [isStart] at letter
  rw [isPart, Bool.or_eq_true, Bool.or_eq_true, letter, digit, beq_iff_eq, or_assoc]

theorem utf8Size_of_isPart {c : Char} (part : isPart c = true) : c.utf8Size = 1 := by
  rw [Char.utf8Size_eq_one_iff]
  simp only [isPart, Bool.or_eq_true, beq_iff_eq] at part
  rcases part with (letter | digit) | rfl
  · have upper := of_decide_eq_true (Bool.and_eq_true_iff.mp letter).2
    exact UInt32.le_trans upper (by decide)
  · have upper := of_decide_eq_true (Bool.and_eq_true_iff.mp digit).2
    exact UInt32.le_trans upper (by decide)
  · decide

theorem utf8Len_of_all_isPart {text : List Char} (parts : ∀ c ∈ text, isPart c = true) :
    String.utf8Len text = text.length := by
  induction text with
  | nil => rfl
  | cons c rest ih =>
      rw [String.utf8Len_cons, utf8Size_of_isPart (parts c List.mem_cons_self),
        ih fun later member => parts later (List.mem_cons_of_mem c member), List.length_cons]

/-- The check of a name counts characters, which take one byte each in a name that passes. -/
theorem isValid_iff (name : String) : isValid name = true ↔ IsLegal name := by
  rw [IsLegal, ← String.utf8Len_toList]
  unfold isValid
  cases spelled : name.toList with
  | nil => simp
  | cons first rest =>
      have bytes : isPart first = true → (∀ c ∈ rest, isPart c = true) →
          String.utf8Len (first :: rest) = rest.length + 1 := fun start parts =>
        utf8Len_of_all_isPart (List.forall_mem_cons.mpr ⟨start, parts⟩)
      simp only [Bool.and_eq_true, decide_eq_true_eq, List.all_eq_true, isStart_iff]
      constructor
      · rintro ⟨⟨start, short⟩, parts⟩
        refine ⟨first, rest, rfl, start, fun c member => (isPart_iff c).mp (parts c member), ?_⟩
        rw [bytes ((isPart_iff first).mpr (.inl start)) parts]
        exact short
      · rintro ⟨_, _, ⟨⟩, start, parts, short⟩
        have allParts : ∀ c ∈ rest, isPart c = true := fun c member =>
          (isPart_iff c).mpr (parts c member)
        rw [bytes ((isPart_iff first).mpr (.inl start)) allParts] at short
        exact ⟨⟨start, short⟩, allParts⟩

theorem error?_eq_none_iff (kind : NameKind) (name : String) :
    error? kind name = none ↔ IsLegal name := by
  rw [error?, ← isValid_iff]
  simp

/-- A schema has a reserved ending when something followed by the ending is the schema. -/
theorem reservedSuffix?_eq_none_iff (schema : String) :
    reservedSuffix? schema = none ↔ ∀ stem, schema ≠ stem ++ "_d" ∧ schema ≠ stem ++ "_t" := by
  have ends (ending : String) :
      ending.toList <:+ schema.toList ↔ ∃ stem, schema = stem ++ ending := by
    constructor
    · rintro ⟨stem, spelled⟩
      exact ⟨String.ofList stem, String.toList_inj.mp (by simp [spelled])⟩
    · rintro ⟨stem, rfl⟩
      exact ⟨stem.toList, (String.toList_append ..).symm⟩
  simp [reservedSuffix?, reservedSuffixes, ends, forall_and]

end Name

/-! ## Constraints of a field -/

/-- The constraints of a field pass when they are of its type and have names that differ from one
another and from those before them. -/
theorem Field.constraintsError?_eq_none_iff (field : Field) (seen : List String)
    (constraints : List Constraint) :
    field.constraintsError? seen constraints = none ↔
      (∀ constraint ∈ constraints, constraint.type = field.type ∧ constraint.name ∉ seen) ∧
        (constraints.map (·.name)).Nodup := by
  induction constraints generalizing seen with
  | nil => simp [constraintsError?]
  | cons constraint rest ih =>
      rw [constraintsError?, List.map_cons, List.nodup_cons, List.forall_mem_cons]
      by_cases suits : constraint.type = field.type
      · rw [if_neg (not_not.mpr suits)]
        by_cases repeated : constraint.name ∈ seen
        · simp [repeated]
        · rw [if_neg repeated, ih]
          simp only [List.mem_cons, List.mem_map]
          grind
      · simp [suits]

/-- A field may be declared when its name is legal and its constraints are of its type and have
different names. -/
theorem Field.declarationError?_eq_none_iff (field : Field) :
    field.declarationError? = none ↔
      Name.IsLegal field.name ∧
        (∀ constraint ∈ field.constraints, constraint.type = field.type) ∧
        (field.constraints.map (·.name)).Nodup := by
  simp [declarationError?, Name.error?_eq_none_iff, constraintsError?_eq_none_iff]

/-! ## The index -/

/-- The names of fields with their positions from a position on. -/
def Field.positions (start : Nat) (fields : List Field) : FieldIndex :=
  (fields.zipIdx start).map fun (field, position) => (field.name, position)

namespace Declaration

/-- Going through fields succeeds when each may be declared and no name comes twice, and then
puts their positions before those of the fields before them. -/
theorem indexFields_eq_ok_iff (declaration : Declaration) (seen : FieldIndex) (start : Nat)
    (fields : List Field) (index : FieldIndex) :
    declaration.indexFields seen start fields = .ok index ↔
      (∀ field ∈ fields, field.declarationError? = none ∧ seen.lookup field.name = none) ∧
        (fields.map (·.name)).Nodup ∧
        index = (Field.positions start fields).reverse ++ seen := by
  induction fields generalizing seen start with
  | nil =>
      simp only [indexFields, Field.positions, Except.ok.injEq]
      simpa using eq_comm
  | cons field rest ih =>
      rw [indexFields, List.forall_mem_cons, List.map_cons, List.nodup_cons]
      cases declared : field.declarationError? with
      | some error => simp
      | none =>
          cases repeated : seen.lookup field.name with
          | some position => simp
          | none =>
              -- a later name is new when it is not among the earlier ones and not this one
              have apart (other : Field) :
                  ((field.name, start) :: seen).lookup other.name = none ↔
                    other.name ≠ field.name ∧ seen.lookup other.name = none := by
                rw [List.lookup_cons]
                cases same : other.name == field.name with
                | true => simp [eq_of_beq same]
                | false => simp [ne_of_beq_false same]
              simp only [ih, apart]
              simp only [Field.positions, List.zipIdx_cons, List.map_cons, List.reverse_cons,
                List.append_assoc, List.singleton_append, List.mem_map]
              grind

/-- What a declaration must be like. -/
structure IsLegal (declaration : Declaration) : Prop where
  tablespace : Name.IsLegal declaration.tablespace
  schema : Name.IsLegal declaration.schema
  name : Name.IsLegal declaration.name
  notReserved : ∀ stem, declaration.schema ≠ stem ++ "_d" ∧ declaration.schema ≠ stem ++ "_t"
  fields_ne_nil : declaration.fields ≠ []
  fieldNames : ∀ field ∈ declaration.fields, Name.IsLegal field.name
  fieldNames_nodup : (declaration.fields.map (·.name)).Nodup
  constraintTypes : ∀ field ∈ declaration.fields, ∀ constraint ∈ field.constraints,
    constraint.type = field.type
  constraintNames_nodup : ∀ field ∈ declaration.fields, (field.constraints.map (·.name)).Nodup

variable {declaration : Declaration}

theorem headError?_eq_none_iff :
    declaration.headError? = none ↔
      Name.IsLegal declaration.tablespace ∧ Name.IsLegal declaration.schema ∧
        Name.IsLegal declaration.name ∧
        (∀ stem, declaration.schema ≠ stem ++ "_d" ∧ declaration.schema ≠ stem ++ "_t") ∧
        declaration.fields ≠ [] := by
  rw [← Name.reservedSuffix?_eq_none_iff]
  simp [headError?, Name.error?_eq_none_iff]

/-- A declaration is accepted when it is legal, and its index holds the position of each field. -/
theorem freeze_eq_ok_iff (index : FieldIndex) :
    declaration.freeze = .ok index ↔
      declaration.IsLegal ∧ index = (Field.positions 0 declaration.fields).reverse := by
  unfold freeze
  cases head : declaration.headError? with
  | some error =>
      have illegal : ¬declaration.IsLegal := by
        intro legal
        have passes := headError?_eq_none_iff.mpr ⟨legal.tablespace, legal.schema, legal.name,
          legal.notReserved, legal.fields_ne_nil⟩
        cases head.symm.trans passes
      simp [illegal]
  | none =>
      obtain ⟨tablespace, schema, name, notReserved, nonempty⟩ := headError?_eq_none_iff.mp head
      simp only [indexFields_eq_ok_iff, List.lookup_nil, and_true, List.append_nil,
        Field.declarationError?_eq_none_iff]
      constructor
      · rintro ⟨declared, distinct, rfl⟩
        exact ⟨⟨tablespace, schema, name, notReserved, nonempty,
          fun field member => (declared field member).1, distinct,
          fun field member => (declared field member).2.1,
          fun field member => (declared field member).2.2⟩, rfl⟩
      · rintro ⟨legal, rfl⟩
        exact ⟨fun field member => ⟨legal.fieldNames field member,
          legal.constraintTypes field member, legal.constraintNames_nodup field member⟩,
          legal.fieldNames_nodup, rfl⟩

/-- The legal declarations are the accepted ones. -/
theorem exists_build_iff : (∃ table, declaration.build = .ok table) ↔ declaration.IsLegal := by
  simp only [build_eq_ok_iff]
  constructor
  · rintro ⟨table, rfl⟩
    exact ((freeze_eq_ok_iff _).mp table.frozen).1
  · intro legal
    exact ⟨⟨declaration, _, (freeze_eq_ok_iff _).mpr ⟨legal, rfl⟩⟩, rfl⟩

end Declaration

namespace Table

variable (table : Table)

/-- Every table has a legal declaration. -/
theorem isLegal : table.IsLegal :=
  ((Declaration.freeze_eq_ok_iff _).mp table.frozen).1

theorem index_eq : table.index = (Field.positions 0 table.fields).reverse :=
  ((Declaration.freeze_eq_ok_iff _).mp table.frozen).2

end Table

end TableStore
