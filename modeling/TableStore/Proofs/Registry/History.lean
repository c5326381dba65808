import Mathlib.Data.Finset.Card
import TableStore.Registry

/-!
# Histories of a registry

A registry starts without tables, and tables are registered in it one after another. Each attempt
changes the registry or is refused, and the next is made on what it leaves.

Whatever the history, the registry then lists the tables that came first under their schema and
name, in the order in which they came, and looks up every table under both. An attempt is refused
exactly when an earlier one was made under the same schema and name.
-/

namespace TableStore

/-- The schema and the name of a table, under which it is looked up. -/
def Table.logicalName (table : Table) : String × String :=
  (table.schema, table.name)

/-- The tables of a history that come first under their logical names, in order. -/
def firstTables (history : List Table) : List Table :=
  (List.range history.length).filterMap fun position =>
    history[position]?.filter fun table =>
      table.logicalName ∉ (history.take position).map Table.logicalName

/-- A further table comes first unless an earlier one has its logical name. -/
theorem firstTables_append_singleton (history : List Table) (table : Table) :
    firstTables (history ++ [table]) =
      firstTables history ++
        if table.logicalName ∈ history.map Table.logicalName then [] else [table] := by
  unfold firstTables
  rw [List.length_append, List.length_singleton, List.range_succ, List.filterMap_append]
  congr 1
  · apply List.filterMap_congr
    intro position member
    have inside : position < history.length := List.mem_range.mp member
    rw [List.getElem?_append_left inside, List.take_append_of_le_length (Nat.le_of_lt inside)]
  · rw [List.filterMap_cons, List.filterMap_nil, List.getElem?_concat_length, List.take_left]
    by_cases known : table.logicalName ∈ history.map Table.logicalName
    · rw [if_pos known, Option.filter_some, decide_eq_false (not_not.mpr known)]
      rfl
    · rw [if_neg known, Option.filter_some, decide_eq_true known]
      rfl

namespace Registry

/-- The registry after a history of attempts that began without tables. -/
def afterAttempts (history : List Table) : Registry :=
  history.foldl (fun registry table => (registry.register table).2) empty

theorem afterAttempts_append_singleton (history : List Table) (table : Table) :
    afterAttempts (history ++ [table]) = ((afterAttempts history).register table).2 := by
  rw [afterAttempts, List.foldl_append]
  rfl

theorem get?_eq (registry : Registry) (schema name : String) :
    registry.get? schema name =
      registry.tables.find? fun table => table.logicalName = (schema, name) := by
  simp only [get?, Table.logicalName, Prod.mk.injEq, Bool.decide_and, beq_eq_decide]

/-- A table is refused exactly when a registered one has its logical name. -/
theorem register_eq (registry : Registry) (table : Table) :
    registry.register table =
      if table.logicalName ∈ registry.tables.map Table.logicalName then
        (.error (.configuration (.tableTwice table.qualifiedName)), registry)
      else (.ok (), ⟨registry.tables ++ [table]⟩) := by
  have taken : (registry.get? table.schema table.name).isSome = true ↔
      table.logicalName ∈ registry.tables.map Table.logicalName := by
    rw [get?_eq, List.find?_isSome, List.mem_map]
    simp [Table.logicalName]
  simp only [register, taken]

/-- What a registry holds when it went through a history. -/
structure Records (registry : Registry) (history : List Table) : Prop where
  listed : registry.tables = firstTables history
  counted : registry.size = (history.map Table.logicalName).toFinset.card
  found : ∀ schema name, registry.get? schema name =
    history.find? fun table => table.logicalName = (schema, name)
  grouped : ∀ tablespace, registry.inTablespace tablespace =
    (firstTables history).filter fun table => table.tablespace = tablespace

/-! ## What every history keeps -/

/-- What holds between a registry and the history it went through: the registry lists the first
tables, no logical name twice, and finds under any condition on logical names what is found in
the history. -/
structure Follows (registry : Registry) (history : List Table) : Prop where
  tables : registry.tables = firstTables history
  distinct : (registry.tables.map Table.logicalName).Nodup
  find? : ∀ wanted : String × String → Bool,
    registry.tables.find? (wanted ·.logicalName) = history.find? (wanted ·.logicalName)

theorem follows_empty : empty.Follows [] where
  tables := rfl
  distinct := List.nodup_nil
  find? _ := rfl

variable {registry : Registry} {history : List Table}

/-- The logical names of a registry are those of its history. -/
theorem Follows.mem_iff (follows : registry.Follows history) (logicalName : String × String) :
    logicalName ∈ registry.tables.map Table.logicalName ↔
      logicalName ∈ history.map Table.logicalName := by
  have same := congrArg Option.isSome (follows.find? (· == logicalName))
  rw [Bool.eq_iff_iff, List.find?_isSome, List.find?_isSome] at same
  simpa using same

/-- An attempt adds to the history, whether it is refused or not. -/
theorem Follows.register (follows : registry.Follows history) (table : Table) :
    (registry.register table).2.Follows (history ++ [table]) := by
  have known := follows.mem_iff table.logicalName
  rw [register_eq]
  by_cases taken : table.logicalName ∈ registry.tables.map Table.logicalName
  · rw [if_pos taken]
    constructor
    · rw [firstTables_append_singleton, if_pos (known.mp taken), List.append_nil]
      exact follows.tables
    · exact follows.distinct
    · intro wanted
      -- the refused table is not found, because a registered one of its name is found before it
      rw [List.find?_append, ← follows.find? wanted]
      cases found : registry.tables.find? (wanted ·.logicalName) with
      | some earlier => rfl
      | none =>
          obtain ⟨earlier, member, same⟩ := List.mem_map.mp taken
          have refused := List.find?_eq_none.mp found earlier member
          rw [same] at refused
          simp [refused]
  · rw [if_neg taken]
    constructor
    · rw [firstTables_append_singleton, if_neg (known.not.mp taken), follows.tables]
    · rw [List.map_append, List.map_singleton]
      rw [← List.concat_eq_append]
      exact follows.distinct.concat taken
    · intro wanted
      rw [List.find?_append, List.find?_append, follows.find? wanted]

theorem follows_afterAttempts (history : List Table) :
    (afterAttempts history).Follows history := by
  induction history using List.reverseRecOn with
  | nil => exact follows_empty
  | append_singleton history table ih =>
      rw [afterAttempts_append_singleton]
      exact ih.register table

theorem Follows.records (follows : registry.Follows history) : registry.Records history where
  listed := follows.tables
  counted := by
    have names : (registry.tables.map Table.logicalName).toFinset =
        (history.map Table.logicalName).toFinset := by
      ext logicalName
      rw [List.mem_toFinset, List.mem_toFinset, follows.mem_iff]
    rw [← names, List.toFinset_card_of_nodup follows.distinct, List.length_map, size]
  found schema name := by
    rw [get?_eq]
    exact follows.find? fun logicalName => logicalName = (schema, name)
  grouped tablespace := by
    rw [inTablespace, follows.tables]
    rfl

/-- After every history a registry records its first tables. A further attempt is refused, and
leaves the registry as it is, exactly when an earlier one was made under the same logical name;
every other attempt succeeds. -/
theorem attempts_record_first_tables (history : List Table) :
    (afterAttempts history).Records history ∧
      ∀ table,
        ((afterAttempts history).register table =
            (.error (.configuration (.tableTwice table.qualifiedName)), afterAttempts history) ↔
          table.logicalName ∈ history.map Table.logicalName) ∧
        (((afterAttempts history).register table).1 = .ok () ↔
          table.logicalName ∉ history.map Table.logicalName) := by
  have follows := follows_afterAttempts history
  refine ⟨follows.records, fun table => ?_⟩
  rw [← follows.mem_iff, register_eq]
  by_cases taken : table.logicalName ∈ (afterAttempts history).tables.map Table.logicalName
  · rw [if_pos taken]
    exact ⟨iff_of_true rfl taken, iff_of_false nofun (not_not.mpr taken)⟩
  · rw [if_neg taken]
    exact ⟨iff_of_false nofun taken, iff_of_true rfl taken⟩

end Registry

end TableStore
