import Mathlib.Tactic.IntervalCases
import TableStore.Proofs.Routing.Counterpart
import TableStore.Proofs.Statement.Place

/-!
# Schemas that a server cuts off

A declared name fits into an identifier of the server, but the ending of an environment adds two
bytes to a schema. A counterpart fits exactly when the schema leaves room for them or is of a
term.

Where it does not fit, a server takes the counterparts of development and testing for one and the
same schema. For a schema of the greatest length this is the schema of production.
-/

namespace TableStore

open Server Sql

namespace Routing

theorem utf8ByteSize_ending {environment : Environment} (outside : environment ≠ .production) :
    (ending environment).utf8ByteSize = 2 := by
  cases environment <;> first | contradiction | decide

/-- A physical schema fits in production, and elsewhere if the schema is of a term or leaves room
for the ending. -/
theorem physicalSchema_fits_iff {schema : String} (valid : Name.isValid schema = true)
    (environment : Environment) :
    (physicalSchema schema environment).utf8ByteSize ≤ identifierBytes ↔
      environment = .production ∨ isTermSchema schema = true ∨
        schema.utf8ByteSize + 2 ≤ identifierBytes := by
  by_cases production : environment = .production
  · subst production
    simpa [physicalSchema] using Name.utf8ByteSize_le_of_isValid valid
  · rw [physicalSchema_of_ne_production schema production, String.utf8ByteSize_append,
      utf8ByteSize_ending production]
    cases term : isTermSchema schema with
    | true =>
        rw [stem_of_isTermSchema term]
        simp only [true_or, or_true, iff_true]
        decide
    | false =>
        rw [stem_of_not_isTermSchema term]
        simp [production]

/-- What a server takes the counterpart of a schema that is none of a term for: the schema, and as
much of the ending as there is room for. -/
theorem resolvedName_physicalSchema {schema : String} (valid : Name.isValid schema = true)
    (other : isTermSchema schema = false) {environment : Environment}
    (outside : environment ≠ .production) :
    (resolvedName (physicalSchema schema environment)).toList =
      schema.toList ++
        keepBytes (identifierBytes - schema.utf8ByteSize) (ending environment).toList := by
  have fits : String.utf8Len schema.toList ≤ identifierBytes := by
    rw [String.utf8Len_toList]
    exact Name.utf8ByteSize_le_of_isValid valid
  rw [physicalSchema_of_ne_production schema outside, stem_of_not_isTermSchema other,
    resolvedName, String.toList_ofList, String.toList_append, keepBytes_append fits,
    String.utf8Len_toList]

/-- A server tells the counterparts of a schema apart exactly when they fit. -/
theorem resolvedName_ne_iff (table : Table) :
    (∀ a b : Environment, a ≠ b →
        resolvedName (physicalSchema table.schema a) ≠
          resolvedName (physicalSchema table.schema b)) ↔
      isTermSchema table.schema = true ∨
        table.schema.utf8ByteSize + 2 ≤ identifierBytes := by
  have bounded := Name.utf8ByteSize_le_of_isValid table.isValid_schema
  constructor
  · intro apart
    by_contra exceeds
    rw [not_or, Bool.not_eq_true] at exceeds
    obtain ⟨other, large⟩ := exceeds
    -- at most one byte of the ending is kept, and the first byte of both endings is the same
    have room : identifierBytes - table.schema.utf8ByteSize ≤ 1 := by omega
    apply apart .development .testing (by simp)
    rw [← String.toList_inj, resolvedName_physicalSchema table.isValid_schema other (by simp),
      resolvedName_physicalSchema table.isValid_schema other (by simp)]
    congr 1
    interval_cases identifierBytes - table.schema.utf8ByteSize <;> decide
  · intro fits a b different same
    have kept : ∀ environment, resolvedName (physicalSchema table.schema environment) =
        physicalSchema table.schema environment := fun environment =>
      (resolvedName_eq_self_iff _).mpr
        ((physicalSchema_fits_iff table.isValid_schema environment).mpr (.inr fits))
    rw [kept, kept] at same
    exact table.physicalSchema_ne table different same

/-- A server takes a counterpart for the schema itself exactly when the schema is none of a term and
has the greatest length. -/
theorem exists_resolvedName_eq_iff (table : Table) :
    (∃ environment, environment ≠ .production ∧
        resolvedName (physicalSchema table.schema environment) = table.schema) ↔
      isTermSchema table.schema = false ∧ table.schema.utf8ByteSize = identifierBytes := by
  have bounded := Name.utf8ByteSize_le_of_isValid table.isValid_schema
  constructor
  · rintro ⟨environment, outside, same⟩
    have other : isTermSchema table.schema = false := by
      rw [← Bool.not_eq_true]
      intro term
      have kept := (resolvedName_eq_self_iff _).mpr
        ((physicalSchema_fits_iff table.isValid_schema environment).mpr (.inr (.inl term)))
      rw [kept] at same
      exact table.physicalSchema_ne table outside same
    refine ⟨other, ?_⟩
    have lengths := congrArg (fun name : String => name.toList.length) same
    simp only [resolvedName_physicalSchema table.isValid_schema other outside,
      List.length_append] at lengths
    by_contra shorter
    obtain ⟨room, spare⟩ : ∃ room, identifierBytes - table.schema.utf8ByteSize = room + 1 :=
      ⟨identifierBytes - table.schema.utf8ByteSize - 1, by omega⟩
    rw [spare] at lengths
    cases environment with
    | production => contradiction
    | development | testing => simp [ending, keepBytes, Char.utf8Size] at lengths
  · rintro ⟨other, greatest⟩
    refine ⟨.development, by simp, ?_⟩
    rw [← String.toList_inj, resolvedName_physicalSchema table.isValid_schema other (by simp),
      greatest, Nat.sub_self]
    simp [ending, keepBytes, Char.utf8Size]

/-- The statement that creates the schema of a table quotes the physical schema alone. -/
theorem quotedNames_schemaCreation (table : Table) (environment : Environment) :
    quotedNames (Statement.definition (table.schemaCreation environment)).text =
      [physicalSchema table.schema environment] := by
  rw [quotedNames, Statement.text, spells_definition]
  rfl

/-- Every name in the statements issued for a table fits exactly when its physical schema does. -/
theorem quoted_fits_iff (table : Table) (environment : Environment) :
    (∀ statement, table.Issues environment statement →
        ∀ name ∈ quotedNames statement.text, name.utf8ByteSize ≤ identifierBytes) ↔
      (physicalSchema table.schema environment).utf8ByteSize ≤ identifierBytes := by
  constructor
  · intro fits
    apply fits _ .schemaCreation
    rw [quotedNames_schemaCreation]
    exact List.mem_singleton_self _
  · intro fits statement issued name quoted
    rcases issued.staysIn.quoted quoted with rfl | rfl | valid
    · exact fits
    · exact Name.utf8ByteSize_le_of_isValid table.isValid_name
    · exact Name.utf8ByteSize_le_of_isValid valid

/-- Every name in the statements issued for a table fits, and is taken for itself, in production,
and elsewhere exactly when the schema is of a term or leaves room for the ending. The same decides
whether a server tells the physical schemas of the table apart. It takes one outside production for
that of production exactly when the schema is none of a term and has the greatest length. -/
theorem issued_names_resolve_iff (table : Table) :
    (∀ environment,
      (∀ statement, table.Issues environment statement → ∀ name ∈ quotedNames statement.text,
          name.utf8ByteSize ≤ identifierBytes ∧ resolvedName name = name) ↔
        environment = .production ∨ isTermSchema table.schema = true ∨
          table.schema.utf8ByteSize + 2 ≤ identifierBytes) ∧
    ((∀ a b : Environment, a ≠ b →
        resolvedName (physicalSchema table.schema a) ≠
          resolvedName (physicalSchema table.schema b)) ↔
      isTermSchema table.schema = true ∨
        table.schema.utf8ByteSize + 2 ≤ identifierBytes) ∧
    ((∃ environment, environment ≠ .production ∧
        resolvedName (physicalSchema table.schema environment) =
          resolvedName (physicalSchema table.schema .production)) ↔
      isTermSchema table.schema = false ∧ table.schema.utf8ByteSize = identifierBytes) := by
  refine ⟨fun environment => ?_, resolvedName_ne_iff table, ?_⟩
  · simp only [resolvedName_eq_self_iff, and_self]
    rw [quoted_fits_iff, physicalSchema_fits_iff table.isValid_schema]
  · have kept : resolvedName (physicalSchema table.schema .production) = table.schema :=
      (resolvedName_eq_self_iff _).mpr (Name.utf8ByteSize_le_of_isValid table.isValid_schema)
    rw [kept]
    exact exists_resolvedName_eq_iff table

/-- A schema of the greatest length is declared, its counterparts do not fit, and a server takes
both of them for the schema of production. -/
theorem longest_schema_is_cut_off :
    ∃ table statement,
      (notes (String.ofList (List.replicate 63 'a'))).build = .ok table ∧
      table.Issues .development statement ∧
      (∃ name ∈ quotedNames statement.text, identifierBytes < name.utf8ByteSize) ∧
      resolvedName (physicalSchema table.schema .development) =
        resolvedName (physicalSchema table.schema .production) ∧
      resolvedName (physicalSchema table.schema .testing) =
        resolvedName (physicalSchema table.schema .production) := by
  refine ⟨_, _, rfl, .schemaCreation, ?_, by decide, by decide⟩
  rw [quotedNames_schemaCreation]
  exact ⟨_, List.mem_singleton_self _, by decide⟩

end Routing

end TableStore
