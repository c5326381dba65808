import Mathlib.Data.List.Forall2
import TableStore.Proofs.Decimal.Digits
import TableStore.Proofs.Registry.History
import TableStore.Proofs.Routing.Collision
import TableStore.School.Terms

/-!
# Registered terms

The registry of an application is built for some terms. This succeeds exactly when every number
has six digits and none comes twice, and then the tables of weeks follow the reference tables in
the order of the terms, and are looked up for these terms only.

In production every term has a table of weeks of its own. In each of the other environments all
of them are one table, which is none of the reference tables.
-/

namespace TableStore.School

open Decimal Routing

/-- Whether the number of a term has six digits. -/
def HasSixDigits (term : Int32) : Prop :=
  leastTerm ≤ term.toInt ∧ term.toInt ≤ greatestTerm

instance (term : Int32) : Decidable (HasSixDigits term) :=
  inferInstanceAs (Decidable (_ ∧ _))

/-- The schema of a term whose number has six digits. -/
def schemaOf (term : Int32) : String :=
  "term_" ++ integerText term.toInt

/-- Whether a table is the table of weeks of a term. -/
structure IsWeeksOf (term : Int32) (table : Table) : Prop where
  hasSixDigits : HasSixDigits term
  declaration : table.toDeclaration = termWeekDeclaration (schemaOf term)

theorem termSchema_eq (term : Int32) :
    termSchema term =
      if HasSixDigits term then .ok (schemaOf term)
      else .error (.configuration (.termNumber term.toInt)) :=
  rfl

/-! ## The schema of a term -/

variable {term : Int32}

theorem HasSixDigits.toList_schemaOf (sixDigits : HasSixDigits term) :
    (schemaOf term).toList = termMark.toList ++ digits term.toInt.natAbs := by
  have positive : ¬ term.toInt < 0 := by
    have := sixDigits.1
    simp only [leastTerm] at this
    omega
  rw [schemaOf, String.toList_append, integerText, signed, if_neg positive, termMark]
  exact congrArg _ String.toList_ofList

theorem isTermSchema_schemaOf (sixDigits : HasSixDigits term) :
    isTermSchema (schemaOf term) = true := by
  rw [isTermSchema, sixDigits.toList_schemaOf, List.isPrefixOf_iff_prefix]
  exact List.prefix_append ..

theorem HasSixDigits.schemaOf_eq (sixDigits : HasSixDigits term) :
    schemaOf term = "term_" ++ toString term.toInt := by
  cases number : term.toInt with
  | ofNat n =>
      rw [schemaOf, number]
      rfl
  | negSucc n =>
      have positive := sixDigits.1
      rw [number] at positive
      cases positive

theorem HasSixDigits.isLegal_schemaOf (sixDigits : HasSixDigits term) :
    Name.IsLegal (schemaOf term) := by
  have atMost : term.toInt.natAbs < 10 ^ 6 := by
    obtain ⟨least, greatest⟩ := sixDigits
    simp only [leastTerm, greatestTerm] at least greatest
    omega
  have short : (digits term.toInt.natAbs).length ≤ 6 :=
    (Nat.length_toDigits_le_iff (by decide) (by decide)).mpr atMost
  have parts : ∀ c ∈ termMark.toList ++ digits term.toInt.natAbs, Name.isPart c = true := by
    intro c member
    rcases List.mem_append.mp member with marked | digit
    · exact List.all_eq_true.mp (by decide : termMark.toList.all Name.isPart = true) c marked
    · simp [Name.isPart, isDigit_of_mem_digits digit]
  refine ⟨'t', "erm_".toList ++ digits term.toInt.natAbs, sixDigits.toList_schemaOf, by decide,
    fun c member => (Name.isPart_iff c).mp (parts c (List.mem_cons_of_mem _ member)), ?_⟩
  rw [← String.utf8Len_toList, sixDigits.toList_schemaOf, Name.utf8Len_of_all_isPart parts,
    List.length_append]
  exact Nat.add_le_add (by decide : termMark.toList.length ≤ 57) short

/-- The schema of a term ends in a digit. -/
theorem HasSixDigits.schemaOf_ne (sixDigits : HasSixDigits term) {ending : String} {c : Char}
    (last : ending.toList.getLast? = some c) (noDigit : c.isDigit = false) (stem : String) :
    schemaOf term ≠ stem ++ ending := by
  intro same
  have ends := congrArg List.getLast? (String.toList_inj.mpr same)
  rw [sixDigits.toList_schemaOf, String.toList_append, List.getLast?_append, List.getLast?_append,
    last, Option.some_or] at ends
  cases final : (digits term.toInt.natAbs).getLast? with
  | none => exact digits_ne_nil _ (List.getLast?_eq_none_iff.mp final)
  | some d =>
      rw [final, Option.some_or, Option.some.injEq] at ends
      have digit := isDigit_of_mem_digits (List.mem_of_getLast? final)
      rw [ends, noDigit] at digit
      cases digit

/-- Terms are told apart by their schemas. -/
theorem schemaOf_injective {first second : Int32} (sixDigits : HasSixDigits first)
    (alsoSixDigits : HasSixDigits second) (same : schemaOf first = schemaOf second) :
    first = second := by
  rw [← String.toList_inj, sixDigits.toList_schemaOf, alsoSixDigits.toList_schemaOf,
    List.append_cancel_left_eq] at same
  have numbers := congrArg readNat? same
  rw [readNat?_digits, readNat?_digits, Option.some.injEq] at numbers
  apply Int32.toInt_inj.mp
  have positive := sixDigits.1
  have alsoPositive := alsoSixDigits.1
  simp only [leastTerm] at positive alsoPositive
  omega

/-! ## The table of weeks of a term -/

theorem IsWeeksOf.schema {table : Table} (weeks : IsWeeksOf term table) :
    table.schema = schemaOf term :=
  congrArg Declaration.schema weeks.declaration

theorem IsWeeksOf.name {table : Table} (weeks : IsWeeksOf term table) :
    table.name = termWeekName :=
  congrArg Declaration.name weeks.declaration

theorem declareTermWeek_eq_ok_iff (table : Table) :
    declareTermWeek term = .ok table ↔ IsWeeksOf term table := by
  rw [declareTermWeek, termSchema_eq]
  by_cases sixDigits : HasSixDigits term
  · rw [if_pos sixDigits, Except.bind, Declaration.build_eq_ok_iff]
    exact ⟨fun declared => ⟨sixDigits, declared⟩, IsWeeksOf.declaration⟩
  · rw [if_neg sixDigits]
    exact iff_of_false nofun fun weeks => sixDigits weeks.hasSixDigits

theorem HasSixDigits.isLegal_termWeekDeclaration (sixDigits : HasSixDigits term) :
    (termWeekDeclaration (schemaOf term)).IsLegal where
  tablespace := (Name.isValid_iff "term").mp (by decide)
  schema := sixDigits.isLegal_schemaOf
  name := (Name.isValid_iff termWeekName).mp (by decide)
  notReserved stem :=
    ⟨sixDigits.schemaOf_ne (c := 'd') rfl rfl stem, sixDigits.schemaOf_ne (c := 't') rfl rfl stem⟩
  fields_ne_nil := List.cons_ne_nil _ _
  fieldNames field member := (Name.isValid_iff field.name).mp <|
    (by decide : ∀ field ∈ (termWeekDeclaration "").fields, Name.isValid field.name = true)
      field member
  fieldNames_nodup := (by decide : ((termWeekDeclaration "").fields.map (·.name)).Nodup)
  constraintTypes := by simp [termWeekDeclaration]
  constraintNames_nodup := by simp [termWeekDeclaration]

/-- Every term whose number has six digits has a table of weeks. -/
theorem HasSixDigits.exists_isWeeksOf (sixDigits : HasSixDigits term) :
    ∃ table, IsWeeksOf term table := by
  obtain ⟨table, built⟩ := Declaration.exists_build_iff.mpr sixDigits.isLegal_termWeekDeclaration
  exact ⟨table, sixDigits, (Declaration.build_eq_ok_iff _ table).mp built⟩

/-- A term and its table of weeks tell each other. -/
theorem biUnique_isWeeksOf : Relator.BiUnique IsWeeksOf := by
  constructor
  · intro first second table weeks alsoWeeks
    apply schemaOf_injective weeks.hasSixDigits alsoWeeks.hasSixDigits
    rw [← weeks.schema, ← alsoWeeks.schema]
  · intro term first second weeks alsoWeeks
    have declared := (declareTermWeek_eq_ok_iff first).mpr weeks
    rw [(declareTermWeek_eq_ok_iff second).mpr alsoWeeks] at declared
    exact (Except.ok.inj declared).symm

/-! ## Registering terms -/

/-- Whether a registry lists the reference tables and then the tables of weeks of some terms. -/
def Holds (registry : Registry) (terms : List Int32) : Prop :=
  ∃ weeks, registry.tables = referenceTables ++ weeks ∧ List.Forall₂ IsWeeksOf terms weeks

theorem holds_referenceTables : Holds ⟨referenceTables⟩ [] :=
  ⟨[], rfl, .nil⟩

theorem name_ne_of_mem_referenceTables {table : Table} (member : table ∈ referenceTables) :
    table.name ≠ termWeekName :=
  (by decide : ∀ table ∈ referenceTables, table.name ≠ termWeekName) table member

theorem isTermSchema_of_mem_referenceTables {table : Table} (member : table ∈ referenceTables) :
    isTermSchema table.schema = false :=
  (by decide : ∀ table ∈ referenceTables, isTermSchema table.schema = false) table member

theorem exists_isWeeksOf_of_mem {terms : List Int32} {tables : List Table}
    (each : List.Forall₂ IsWeeksOf terms tables) {table : Table} (member : table ∈ tables) :
    ∃ term ∈ terms, IsWeeksOf term table := by
  induction each with
  | nil => cases member
  | cons weeks _ ih =>
      rcases List.mem_cons.mp member with rfl | later
      · exact ⟨_, List.mem_cons_self, weeks⟩
      · obtain ⟨term, known, weeks⟩ := ih later
        exact ⟨term, List.mem_cons_of_mem _ known, weeks⟩

variable {registry : Registry} {terms : List Int32} {table : Table}

/-- The table of weeks of a term is registered exactly when the registry holds the term. -/
theorem Holds.mem_iff (holds : Holds registry terms) (weeks : IsWeeksOf term table) :
    table ∈ registry.tables ↔ term ∈ terms := by
  obtain ⟨tables, listed, each⟩ := holds
  have paired : term ∈ terms ↔ table ∈ tables := List.rel_mem biUnique_isWeeksOf weeks each
  rw [listed, List.mem_append, paired]
  constructor
  · rintro (reference | later)
    · exact absurd weeks.name (name_ne_of_mem_referenceTables reference)
    · exact later
  · exact .inr

/-- A registered table with the schema of a term is its table of weeks. -/
theorem Holds.eq_of_schema_eq (holds : Holds registry terms) (weeks : IsWeeksOf term table)
    {other : Table} (member : other ∈ registry.tables) (same : other.schema = table.schema) :
    other = table := by
  obtain ⟨tables, listed, each⟩ := holds
  rw [listed, List.mem_append] at member
  rcases member with reference | later
  · have ofTerm := isTermSchema_schemaOf weeks.hasSixDigits
    rw [← weeks.schema, ← same, isTermSchema_of_mem_referenceTables reference] at ofTerm
    cases ofTerm
  · obtain ⟨own, -, ownWeeks⟩ := exists_isWeeksOf_of_mem each later
    rw [weeks.schema, ownWeeks.schema] at same
    cases schemaOf_injective ownWeeks.hasSixDigits weeks.hasSixDigits same
    exact biUnique_isWeeksOf.2 ownWeeks weeks

theorem Holds.mem_logicalNames_iff (holds : Holds registry terms) (weeks : IsWeeksOf term table) :
    table.logicalName ∈ registry.tables.map Table.logicalName ↔ term ∈ terms := by
  rw [← holds.mem_iff weeks]
  constructor
  · intro named
    obtain ⟨other, member, same⟩ := List.mem_map.mp named
    exact holds.eq_of_schema_eq weeks member (Prod.mk.inj same).1 ▸ member
  · exact List.mem_map_of_mem

/-- The table of weeks of a term is refused exactly when the registry holds the term. -/
theorem Holds.extend_eq (holds : Holds registry terms) (weeks : IsWeeksOf term table) :
    registry.extend table =
      if term ∈ terms then .error (.configuration (.tableTwice table.qualifiedName))
      else .ok ⟨registry.tables ++ [table]⟩ := by
  simp only [Registry.extend, Registry.register_eq, holds.mem_logicalNames_iff weeks]
  by_cases known : term ∈ terms
  · rw [if_pos known, if_pos known]
  · rw [if_neg known, if_neg known]

theorem Holds.append (holds : Holds registry terms) (weeks : IsWeeksOf term table) :
    Holds ⟨registry.tables ++ [table]⟩ (terms ++ [term]) := by
  obtain ⟨tables, listed, each⟩ := holds
  refine ⟨tables ++ [table], ?_, List.rel_append each (.cons weeks .nil)⟩
  rw [listed, List.append_assoc]

/-- A term is registered when it has six digits and is not held yet, and then further terms are. -/
theorem Holds.registerTerms_cons_eq_ok_iff (holds : Holds registry terms) (rest : List Int32)
    (last : Registry) :
    registerTerms registry (term :: rest) = .ok last ↔
      term ∉ terms ∧ ∃ table, IsWeeksOf term table ∧
        registerTerms ⟨registry.tables ++ [table]⟩ rest = .ok last := by
  rw [registerTerms]
  cases declared : declareTermWeek term with
  | error =>
      refine iff_of_false nofun ?_
      rintro ⟨-, table, weeks, -⟩
      cases declared.symm.trans ((declareTermWeek_eq_ok_iff table).mpr weeks)
  | ok table =>
      have weeks : IsWeeksOf term table := (declareTermWeek_eq_ok_iff table).mp declared
      rw [Except.bind, holds.extend_eq weeks]
      by_cases known : term ∈ terms
      · rw [if_pos known]
        exact iff_of_false nofun fun ⟨new, _⟩ => new known
      · rw [if_neg known, Except.bind]
        constructor
        · exact fun done => ⟨known, table, weeks, done⟩
        · rintro ⟨-, other, alsoWeeks, done⟩
          rw [biUnique_isWeeksOf.2 weeks alsoWeeks]
          exact done

/-- Registering further terms succeeds only if they have six digits and are new, one by one, and
then the registry holds them after the earlier ones. -/
theorem Holds.registerTerms (holds : Holds registry terms) {further : List Int32}
    {last : Registry} (done : registerTerms registry further = .ok last) :
    (∀ term ∈ further, HasSixDigits term ∧ term ∉ terms) ∧ further.Nodup ∧
      Holds last (terms ++ further) := by
  induction further generalizing registry terms with
  | nil =>
      cases done
      rw [List.append_nil]
      exact ⟨nofun, List.nodup_nil, holds⟩
  | cons term rest ih =>
      obtain ⟨new, table, weeks, done⟩ := (holds.registerTerms_cons_eq_ok_iff rest last).mp done
      obtain ⟨each, distinct, holdsAll⟩ := ih (holds.append weeks) done
      simp only [List.mem_append, List.mem_singleton, not_or] at each
      refine ⟨?_, ?_, ?_⟩
      · rintro other (_ | ⟨_, later⟩)
        · exact ⟨weeks.hasSixDigits, new⟩
        · exact ⟨(each other later).1, (each other later).2.1⟩
      · exact List.nodup_cons.mpr ⟨fun later => (each term later).2.2 rfl, distinct⟩
      · rwa [List.append_assoc, List.singleton_append] at holdsAll

/-- Registering further terms that have six digits, are new and differ from each other succeeds. -/
theorem Holds.exists_registerTerms (holds : Holds registry terms) {further : List Int32}
    (each : ∀ term ∈ further, HasSixDigits term ∧ term ∉ terms) (distinct : further.Nodup) :
    ∃ last, School.registerTerms registry further = .ok last := by
  induction further generalizing registry terms with
  | nil => exact ⟨registry, rfl⟩
  | cons term rest ih =>
      obtain ⟨⟨sixDigits, new⟩, later⟩ := List.forall_mem_cons.mp each
      obtain ⟨different, distinct⟩ := List.nodup_cons.mp distinct
      obtain ⟨table, weeks⟩ := sixDigits.exists_isWeeksOf
      have stillNew : ∀ other ∈ rest, HasSixDigits other ∧ other ∉ terms ++ [term] := by
        intro other member
        have apart : other ≠ term := fun same => different (same ▸ member)
        simp [later other member, apart]
      obtain ⟨last, done⟩ := ih (holds.append weeks) stillNew distinct
      exact ⟨last, (holds.registerTerms_cons_eq_ok_iff rest last).mpr ⟨new, table, weeks, done⟩⟩

theorem buildRegistry_eq (terms : List Int32) :
    buildRegistry terms = School.registerTerms ⟨referenceTables⟩ terms := by
  have references : Registry.empty.extendAll referenceTables = .ok ⟨referenceTables⟩ := by
    rfl
  rw [buildRegistry, references]
  rfl

/-! ## Looking terms up -/

/-- The table of weeks of a term is found exactly when the registry holds the term. -/
theorem Holds.termWeek_eq_ok_iff (holds : Holds registry terms) :
    termWeek registry term = .ok table ↔ term ∈ terms ∧ IsWeeksOf term table := by
  rw [termWeek, termSchema_eq]
  by_cases sixDigits : HasSixDigits term
  · obtain ⟨own, weeks⟩ := sixDigits.exists_isWeeksOf
    have named : own.logicalName = (schemaOf term, termWeekName) :=
      Prod.ext weeks.schema weeks.name
    rw [if_pos sixDigits, Except.bind, Registry.get?_eq, ← named]
    cases found : registry.tables.find? fun table => table.logicalName = own.logicalName with
    | none =>
        have unknown : term ∉ terms := fun known =>
          List.find?_eq_none.mp found own ((holds.mem_iff weeks).mpr known) (decide_eq_true rfl)
        exact iff_of_false nofun fun known => unknown known.1
    | some other =>
        have member := List.mem_of_find?_eq_some found
        have sameName := List.find?_some found
        rw [decide_eq_true_eq] at sameName
        obtain rfl := holds.eq_of_schema_eq weeks member (Prod.mk.inj sameName).1
        constructor
        · rintro ⟨⟩
          exact ⟨(holds.mem_iff weeks).mp member, weeks⟩
        · rintro ⟨-, alsoWeeks⟩
          exact congrArg Except.ok (biUnique_isWeeksOf.2 weeks alsoWeeks)
  · rw [if_neg sixDigits]
    exact iff_of_false nofun fun known => sixDigits known.2.hasSixDigits

/-! ## The place of the tables of weeks -/

/-- In production different terms have different tables. -/
theorem IsWeeksOf.text_ne {first second : Int32} {firstTable secondTable : Table}
    (weeks : IsWeeksOf first firstTable) (alsoWeeks : IsWeeksOf second secondTable)
    (different : first ≠ second) :
    (firstTable.physical .production).text ≠ (secondTable.physical .production).text := by
  rw [Ne, Table.physical_text_eq_iff, weeks.schema, alsoWeeks.schema]
  rintro ⟨-, same⟩
  exact different (schemaOf_injective weeks.hasSixDigits alsoWeeks.hasSixDigits same)

theorem IsWeeksOf.physical_eq (weeks : IsWeeksOf term table) :
    table.physical .development = ⟨"term_d", "term_week"⟩ ∧
      table.physical .testing = ⟨"term_t", "term_week"⟩ := by
  have ofTerm := isTermSchema_schemaOf weeks.hasSixDigits
  simp only [Table.physical, weeks.schema, weeks.name, physicalSchema, ofTerm, if_true,
    termWeekName, and_self]

/-- No reference table is where a table of weeks is. -/
theorem IsWeeksOf.text_ne_reference (weeks : IsWeeksOf term table) {reference : Table}
    (member : reference ∈ referenceTables) (environment : Environment) :
    (reference.physical environment).text ≠ (table.physical environment).text := by
  rw [Ne, Table.physical_text_eq_iff, weeks.name]
  exact fun same => name_ne_of_mem_referenceTables member same.1

/-- What a registry that was built for some terms offers. -/
structure Serves (registry : Registry) (terms : List Int32) : Prop where
  listed : ∃ weeks, registry.tables = [School.term, holdType, zipCode, school, parameter] ++ weeks ∧
    List.Forall₂ IsWeeksOf terms weeks
  found : ∀ term, (∃ table, termWeek registry term = .ok table) ↔ term ∈ terms
  registered : ∀ term table, termWeek registry term = .ok table →
    table ∈ registry.tables ∧ table.schema = "term_" ++ toString term.toInt ∧
      table.name = "term_week" ∧
      ∀ other ∈ registry.tables, other.schema = table.schema → other = table
  apart : ∀ first second firstTable secondTable, first ≠ second →
    termWeek registry first = .ok firstTable → termWeek registry second = .ok secondTable →
      (firstTable.physical .production).text ≠ (secondTable.physical .production).text
  shared : ∀ term table, termWeek registry term = .ok table →
    (table.physical .development).text = "\"term_d\".\"term_week\"" ∧
      (table.physical .testing).text = "\"term_t\".\"term_week\""
  separate : ∀ term table, termWeek registry term = .ok table →
    ∀ reference ∈ referenceTables, ∀ environment,
      (reference.physical environment).text ≠ (table.physical environment).text

theorem Holds.serves (holds : Holds registry terms) (sixDigits : ∀ term ∈ terms, HasSixDigits term) :
    Serves registry terms where
  listed := holds
  found term := by
    constructor
    · rintro ⟨table, found⟩
      exact (holds.termWeek_eq_ok_iff.mp found).1
    · intro known
      obtain ⟨table, weeks⟩ := (sixDigits term known).exists_isWeeksOf
      exact ⟨table, holds.termWeek_eq_ok_iff.mpr ⟨known, weeks⟩⟩
  registered term table found := by
    obtain ⟨known, weeks⟩ := holds.termWeek_eq_ok_iff.mp found
    have schema := weeks.schema
    rw [weeks.hasSixDigits.schemaOf_eq] at schema
    exact ⟨(holds.mem_iff weeks).mpr known, schema, weeks.name,
      fun _ member same => holds.eq_of_schema_eq weeks member same⟩
  apart first second firstTable secondTable different found alsoFound :=
    (holds.termWeek_eq_ok_iff.mp found).2.text_ne (holds.termWeek_eq_ok_iff.mp alsoFound).2
      different
  shared term table found := by
    obtain ⟨development, testing⟩ := (holds.termWeek_eq_ok_iff.mp found).2.physical_eq
    rw [development, testing]
    decide
  separate term table found _ member :=
    (holds.termWeek_eq_ok_iff.mp found).2.text_ne_reference member

/-- A registry is built for terms exactly when each has six digits and none comes twice, and it
then serves them: it lists their tables of weeks after the reference tables, finds them for
these terms only, and they are apart from each other in production, one in each of the other
environments, and apart from the reference tables everywhere. -/
theorem buildRegistry_serves (terms : List Int32) :
    ((∃ registry, buildRegistry terms = .ok registry) ↔
        (∀ term ∈ terms, 100000 ≤ term.toInt ∧ term.toInt ≤ 999999) ∧ terms.Nodup) ∧
      ∀ registry, buildRegistry terms = .ok registry → Serves registry terms := by
  rw [buildRegistry_eq]
  constructor
  · constructor
    · rintro ⟨registry, built⟩
      obtain ⟨each, distinct, -⟩ := holds_referenceTables.registerTerms built
      exact ⟨fun term member => (each term member).1, distinct⟩
    · rintro ⟨sixDigits, distinct⟩
      apply holds_referenceTables.exists_registerTerms _ distinct
      exact fun term member => ⟨sixDigits term member, List.not_mem_nil⟩
  · intro registry built
    obtain ⟨each, -, holds⟩ := holds_referenceTables.registerTerms built
    exact holds.serves fun term member => (each term member).1

/-- A registry for two terms finds the later one, and no third. -/
theorem two_terms_served :
    ∃ registry, buildRegistry [202460, 202410] = .ok registry ∧
      Serves registry [202460, 202410] ∧
      (∃ table, termWeek registry 202410 = .ok table) ∧
      ¬ ∃ table, termWeek registry 202430 = .ok table := by
  obtain ⟨builds, serves⟩ := buildRegistry_serves [202460, 202410]
  have sixDigits : ∀ term ∈ [202460, 202410], HasSixDigits term :=
    List.forall_mem_cons.mpr ⟨by decide, List.forall_mem_singleton.mpr (by decide)⟩
  obtain ⟨registry, built⟩ := builds.mpr ⟨sixDigits, by decide⟩
  have served := serves registry built
  exact ⟨registry, built, served, (served.found 202410).mpr (by decide),
    (served.found 202430).not.mpr (by decide)⟩

end TableStore.School
