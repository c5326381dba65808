import TableStore.Proofs.Table.Basic

/-!
# Counterparts of schemas

Outside production a schema is held by its counterpart: a stem with the ending of the environment.
The stem of a schema is the schema itself, and that of the schemas of terms is the one they share.

No declared schema has the ending of another environment, so the name of a physical schema tells
the environment that it belongs to. Within an environment two schemas share their counterpart
exactly when they share their stem. The schemas of terms do, and so does the schema that is named
like their stem.
-/

namespace TableStore.Routing

/-- The stem that the schemas of terms share. -/
def termStem : String := "term"

/-- The stem of the counterparts of a schema. -/
def stem (schema : String) : String :=
  if isTermSchema schema then termStem else schema

/-- The ending of the counterparts in an environment; in production there is none. -/
def ending : Environment → String
  | .production => ""
  | .development => "_d"
  | .testing => "_t"

/-- Whether the stem of a schema is the one of the schemas of terms. -/
def hasTermStem (schema : String) : Bool :=
  schema == termStem || isTermSchema schema

theorem physicalSchema_of_ne_production (schema : String) {environment : Environment}
    (outside : environment ≠ .production) :
    physicalSchema schema environment = stem schema ++ ending environment := by
  unfold stem
  cases environment with
  | production => contradiction
  | development =>
      simp only [physicalSchema, ending]
      split <;> rfl
  | testing =>
      simp only [physicalSchema, ending]
      split <;> rfl

/-! ## Environments told apart -/

/-- The environment whose ending the name of a physical schema has. -/
def environmentOf (physical : String) : Environment :=
  if (ending .development).toList.isSuffixOf physical.toList then .development
  else if (ending .testing).toList.isSuffixOf physical.toList then .testing
  else .production

/-- Every environment is told by the physical schemas of declared schemas. -/
theorem environmentOf_physicalSchema {schema : String}
    (declared : Name.reservedSuffix? schema = none) (environment : Environment) :
    environmentOf (physicalSchema schema environment) = environment := by
  -- only in production does it matter that the schema was declared: it has no ending of its own
  cases environment with
  | production =>
      have free : ∀ reserved ∈ Name.reservedSuffixes, ¬ reserved.toList <:+ schema.toList := by
        simpa [Name.reservedSuffix?] using declared
      have noDevelopment : ¬ (ending .development).toList <:+ schema.toList :=
        free _ (by decide)
      have noTesting : ¬ (ending .testing).toList <:+ schema.toList := free _ (by decide)
      rw [← List.isSuffixOf_iff_suffix] at noDevelopment noTesting
      rw [environmentOf, physicalSchema, if_neg noDevelopment, if_neg noTesting]
  | development =>
      rw [physicalSchema_of_ne_production schema (by simp)]
      simp [environmentOf, ending, List.isSuffixOf]
  | testing =>
      rw [physicalSchema_of_ne_production schema (by simp)]
      simp [environmentOf, ending, List.isSuffixOf]

end TableStore.Routing

namespace TableStore.Table

theorem reservedSuffix?_eq_none (table : Table) : Name.reservedSuffix? table.schema = none :=
  (Name.reservedSuffix?_eq_none_iff _).mpr table.isLegal.notReserved

/-- In different environments tables never have one physical schema. -/
theorem physicalSchema_ne (first second : Table) {a b : Environment} (different : a ≠ b) :
    Routing.physicalSchema first.schema a ≠ Routing.physicalSchema second.schema b := by
  intro same
  have told := congrArg Routing.environmentOf same
  rw [Routing.environmentOf_physicalSchema first.reservedSuffix?_eq_none,
    Routing.environmentOf_physicalSchema second.reservedSuffix?_eq_none] at told
  exact different told

end TableStore.Table

namespace TableStore.Routing

/-! ## Schemas that share a counterpart -/

theorem hasTermStem_iff (schema : String) :
    hasTermStem schema = true ↔ stem schema = termStem := by
  unfold hasTermStem stem
  cases isTermSchema schema <;> simp

theorem stem_of_isTermSchema {schema : String} (ofTerm : isTermSchema schema = true) :
    stem schema = termStem :=
  if_pos ofTerm

theorem stem_of_not_isTermSchema {schema : String} (other : isTermSchema schema = false) :
    stem schema = schema := by
  rw [stem, other]
  rfl

/-- A schema with another stem than the one of terms is its own stem. -/
theorem stem_of_ne_termStem {schema : String} (other : stem schema ≠ termStem) :
    stem schema = schema := by
  cases term : isTermSchema schema with
  | true => exact absurd (stem_of_isTermSchema term) other
  | false => exact stem_of_not_isTermSchema term

/-- Schemas share their stem when they are one, or when it is the one of terms. -/
theorem stem_eq_iff (first second : String) :
    stem first = stem second ↔
      first = second ∨ hasTermStem first = true ∧ hasTermStem second = true := by
  rw [hasTermStem_iff, hasTermStem_iff]
  constructor
  · intro same
    by_cases ofTerm : stem first = termStem
    · exact .inr ⟨ofTerm, same ▸ ofTerm⟩
    · left
      rw [← stem_of_ne_termStem ofTerm, same, stem_of_ne_termStem (same ▸ ofTerm)]
  · rintro (rfl | ⟨ofTerm, alsoOfTerm⟩)
    · rfl
    · rw [ofTerm, alsoOfTerm]

/-- Schemas share their physical schema when they are one, or outside production when their stem
is the one of terms. -/
theorem physicalSchema_eq_iff (first second : String) (environment : Environment) :
    physicalSchema first environment = physicalSchema second environment ↔
      first = second ∨
        environment ≠ .production ∧ hasTermStem first = true ∧ hasTermStem second = true := by
  by_cases production : environment = .production
  · subst production
    simp [physicalSchema]
  · rw [physicalSchema_of_ne_production first production,
      physicalSchema_of_ne_production second production, ← String.toList_inj,
      String.toList_append, String.toList_append, List.append_cancel_right_eq, String.toList_inj,
      stem_eq_iff]
    simp [production]

/-- Notes in a schema. -/
def notes (schema : String) : Declaration where
  tablespace := "main"
  schema := schema
  name := "note"
  fields := [{ name := "text", type := .string, role := .nullable }]

end TableStore.Routing
