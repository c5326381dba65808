import TableStore.Proofs.Table.Basic
import TableStore.Proofs.Table.Equality

/-!
# Looking up fields

Accepting a declaration writes down the position of each name while the fields are checked one
after another. This index says the same as the list of fields: positions, names and fields lead to
one another, and a field belongs to a table when it is equal to one of the table's fields.

The fields of the primary key are picked from the same list, partition keys before clustering
keys.
-/

namespace TableStore

namespace Table

variable {table : Table}

/-- The fields that belong to a table are those equal to one of its fields. -/
theorem contains_iff {field : Field} :
    table.contains field = true ↔ ∃ own ∈ table.fields, own.Equal field := by
  rw [contains, Option.any_eq_true]
  constructor
  · rintro ⟨own, found, same⟩
    exact ⟨own, (fieldNamed?_eq_some_iff.mp found).1, (Field.agrees_iff _ _).mp same⟩
  · rintro ⟨own, member, same⟩
    exact ⟨own, fieldNamed?_eq_some_iff.mpr ⟨member, same.name⟩, (Field.agrees_iff _ _).mpr same⟩

/-- Whether the ways to look up fields say the same. -/
structure LooksUp (table : Table) : Prop where
  position : ∀ name index, table.fieldIndex? name = some index ↔
    ∃ field, table.field? index = some field ∧ field.name = name
  listed : ∀ index, table.field? index = table.fields[index]?
  named : ∀ name field, table.fieldNamed? name = some field ↔
    field ∈ table.fields ∧ field.name = name
  contained : ∀ field, table.contains field = true ↔ ∃ own ∈ table.fields, own.Equal field
  own : (∀ field ∈ table.fields, ∀ constraint ∈ field.constraints, constraint.AtHand) →
    ∀ index field, table.field? index = some field → table.contains field = true

theorem looksUp (table : Table) : table.LooksUp where
  position _ _ := fieldIndex?_eq_some_iff
  listed _ := rfl
  named _ _ := fieldNamed?_eq_some_iff
  contained _ := contains_iff
  own atHand index field found := by
    have member : field ∈ table.fields := List.mem_of_getElem? found
    exact contains_iff.mpr ⟨field, member, Field.equal_self (atHand field member)⟩

/-! ## The primary key -/

/-- Whether a field of the primary key comes before another: partition keys before clustering
keys, and otherwise as declared. -/
def KeyBefore (table : Table) (a b : Field) : Prop :=
  (a.role = .partitionKey ∧ b.role = .clusteringKey) ∨
    (a.role = b.role ∧
      ∃ i j, i < j ∧ table.field? i = some a ∧ table.field? j = some b)

/-- Whether the fields of the primary key are listed once each and in order. -/
structure ListsKeys (table : Table) : Prop where
  complete : ∀ field, field ∈ table.keyFields ↔
    field ∈ table.fields ∧ (field.role = .partitionKey ∨ field.role = .clusteringKey)
  once : table.keyFields.Nodup
  ordered : table.keyFields.Pairwise table.KeyBefore

theorem nodup_fields (table : Table) : table.fields.Nodup :=
  List.Nodup.of_map _ table.nodup_fieldNames

/-- Fields of one role stand as declared. -/
theorem pairwise_filter_role (table : Table) (role : Role) :
    (table.fields.filter (·.role == role)).Pairwise table.KeyBefore := by
  have declared : table.fields.Pairwise fun a b =>
      ∃ i j, i < j ∧ table.field? i = some a ∧ table.field? j = some b :=
    List.pairwise_iff_getElem.mpr fun i j first second less =>
      ⟨i, j, less, List.getElem?_eq_getElem first, List.getElem?_eq_getElem second⟩
  refine (declared.filter _).imp_of_mem fun firstMem secondMem positions => .inr ⟨?_, positions⟩
  rw [eq_of_beq (List.mem_filter.mp firstMem).2, eq_of_beq (List.mem_filter.mp secondMem).2]

theorem listsKeys (table : Table) : table.ListsKeys where
  complete field := by simp [keyFields, and_or_left]
  once := by
    refine List.nodup_append.mpr ⟨table.nodup_fields.filter _, table.nodup_fields.filter _, ?_⟩
    intro a first b second same
    have partition : a.role = .partitionKey := by simpa using (List.mem_filter.mp first).2
    have clustering : b.role = .clusteringKey := by simpa using (List.mem_filter.mp second).2
    rw [same, clustering] at partition
    cases partition
  ordered := by
    refine List.pairwise_append.mpr
      ⟨table.pairwise_filter_role _, table.pairwise_filter_role _, ?_⟩
    intro a first b second
    exact .inl ⟨by simpa using (List.mem_filter.mp first).2,
      by simpa using (List.mem_filter.mp second).2⟩

end Table

/-- A declaration is accepted exactly when it is legal. It is then the declaration of the table,
whose fields are found by position and by name alike and whose primary key is in order. -/
theorem Declaration.builds_iff_legal_and_looksUp (declaration : Declaration) :
    ((∃ table, declaration.build = .ok table) ↔ declaration.IsLegal) ∧
      ∀ table, declaration.build = .ok table →
        table.toDeclaration = declaration ∧ table.LooksUp ∧ table.ListsKeys :=
  ⟨exists_build_iff, fun table built =>
    ⟨(build_eq_ok_iff declaration table).mp built, table.looksUp, table.listsKeys⟩⟩

/-- A share from a zero of either sign to one. -/
def shareFrom (negative : Bool) : Field where
  name := "share"
  type := .double
  role := .clusteringKey
  constraints :=
    [⟨"share_range", .doubleRange (.ofMagnitude negative 0) (.ofRatio false 1 1) .finiteOnly⟩]

/-- Shares by the number of a student, the clustering key first. -/
def shareDeclaration : Declaration where
  tablespace := "main"
  schema := "main"
  name := "share"
  fields := [shareFrom false, { name := "student", type := .long, role := .partitionKey }]

theorem shareDeclaration_looksUp :
    shareDeclaration.IsLegal ∧ ∃ table, shareDeclaration.build = .ok table ∧
      table.LooksUp ∧ table.ListsKeys ∧
      (∀ index field, table.field? index = some field → table.contains field = true) ∧
      table.contains (shareFrom true) = true := by
  have built : shareDeclaration.build = .ok (shareDeclaration.accept (by decide +kernel)) :=
    (Declaration.build_eq_ok_iff _ _).mpr rfl
  obtain ⟨accepted, laws⟩ := Declaration.builds_iff_legal_and_looksUp shareDeclaration
  obtain ⟨-, looksUp, listsKeys⟩ := laws _ built
  have ranged : Constraint.doubleRange "share_range" (.ofMagnitude false 0) (.ofRatio false 1 1)
      .finiteOnly = .ok ⟨"share_range",
        .doubleRange (.ofMagnitude false 0) (.ofRatio false 1 1) .finiteOnly⟩ := by
    decide +kernel
  refine ⟨accepted.mp ⟨_, built⟩, _, built, looksUp, listsKeys, looksUp.own ?_, by decide +kernel⟩
  simp [Declaration.accept, shareDeclaration, shareFrom, Constraint.AtHand.doubleRange ranged]

end TableStore
