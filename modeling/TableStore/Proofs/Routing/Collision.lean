import TableStore.Proofs.Routing.Counterpart
import TableStore.Proofs.Sql.Statement

/-!
# Tables that share their place

The quoted name of a table tells its schema and its name, so two tables share their place on a
server exactly when their names and their physical schemas are the same. Within production they
are then of one schema, and elsewhere of one schema or of two with the stem of terms.

One schema that is none of a term shares its counterparts with others: the one that is named like
the stem of terms.
-/

namespace TableStore

open Routing Sql

/-- The quoted name of a table tells its schema and its name. -/
theorem Sql.TableName.text_injective {first second : TableName} (same : first.text = second.text) :
    first = second := by
  have tokens : some first.tokens = some second.tokens := by
    rw [← spells_tableName first, ← spells_tableName second, same]
  simp only [TableName.tokens, Option.some.injEq, List.cons.injEq, Token.name.injEq] at tokens
  obtain ⟨schema, -, table, -⟩ := tokens
  cases first
  cases second
  cases schema
  cases table
  rfl

namespace Table

/-- Two tables share their place exactly when they have one name and one physical schema. -/
theorem physical_text_eq_iff (first second : Table) (environment : Environment) :
    (first.physical environment).text = (second.physical environment).text ↔
      first.name = second.name ∧
        physicalSchema first.schema environment = physicalSchema second.schema environment := by
  constructor
  · intro same
    obtain ⟨schema, name⟩ := TableName.mk.inj (TableName.text_injective same)
    exact ⟨name, schema⟩
  · rintro ⟨name, schema⟩
    rw [physical, physical, name, schema]

end Table

namespace Routing

/-- A schema that is none of a term shares a counterpart with another schema exactly when, outside
production, it is named like the stem of terms and the other is of a term. -/
theorem shared_of_not_isTermSchema_iff (first second : String) (environment : Environment) :
    isTermSchema first = false ∧ first ≠ second ∧
        physicalSchema first environment = physicalSchema second environment ↔
      environment ≠ .production ∧ first = termStem ∧ isTermSchema second = true := by
  have stemOther : isTermSchema termStem = false := by decide
  rw [physicalSchema_eq_iff]
  constructor
  · rintro ⟨other, different, same | ⟨outside, ofTerm, alsoOfTerm⟩⟩
    · exact absurd same different
    · have named : first = termStem := by simpa [hasTermStem, other] using ofTerm
      refine ⟨outside, named, ?_⟩
      have apart : second ≠ termStem := fun same => different (named.trans same.symm)
      simpa [hasTermStem, apart] using alsoOfTerm
  · rintro ⟨outside, rfl, ofTerm⟩
    refine ⟨stemOther, ?_, .inr ⟨outside, by simp [hasTermStem], by simp [hasTermStem, ofTerm]⟩⟩
    rintro rfl
    rw [stemOther] at ofTerm
    cases ofTerm

/-- Tables share their place exactly when they have one name and are of one schema or, outside
production, of two schemas with the stem of terms. Of the schemas that are none of a term, the
one that is named like this stem is alone in sharing its counterparts. -/
theorem tables_share_place_iff (first second : Table) (environment : Environment) :
    ((first.physical environment).text = (second.physical environment).text ↔
      first.name = second.name ∧
        (first.schema = second.schema ∨
          environment ≠ .production ∧ hasTermStem first.schema = true ∧
            hasTermStem second.schema = true)) ∧
    (isTermSchema first.schema = false ∧ first.schema ≠ second.schema ∧
        physicalSchema first.schema environment = physicalSchema second.schema environment ↔
      environment ≠ .production ∧ first.schema = termStem ∧
        isTermSchema second.schema = true) := by
  constructor
  · rw [Table.physical_text_eq_iff, physicalSchema_eq_iff]
  · exact shared_of_not_isTermSchema_iff ..

/-- The notes of the schema that is named like the stem of terms share their place in development
with the notes of a term, although only one of the two schemas is of a term. -/
theorem term_notes_share_place :
    ∃ plain termly : Table,
      (notes "term").build = .ok plain ∧ (notes "term_202410").build = .ok termly ∧
      (plain.physical .development).text = (termly.physical .development).text ∧
      ¬ (plain.name = termly.name ∧
          (plain.schema = termly.schema ∨
            Environment.development ≠ .production ∧ isTermSchema plain.schema = true ∧
              isTermSchema termly.schema = true)) ∧
      ¬ (isTermSchema plain.schema = false →
          physicalSchema plain.schema .development = physicalSchema termly.schema .development →
          plain.schema = termly.schema) :=
  ⟨_, _, rfl, rfl, by decide, by decide, by decide⟩

end Routing

end TableStore
