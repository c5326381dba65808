import TableStore.Proofs.Updates
import TableStore.School.Reference

/-!
# The order of assignments

An update is made of assignments one by one, and the first one with a fault ends it. Yet what is
made does not depend on their order: whether all of them can be carried out depends on which they
are, and because no field is named twice, neither does what is done to a field.
-/

namespace TableStore.Updates

variable {table : Table} {first second given : List Assignment} {updates : Updates}

/-- Whether an update does what assignments say: it keeps what they do not name, and its changes
are what they assign, in the order of the fields. -/
structure CarriesOut (updates : Updates) (table : Table) (given : List Assignment) : Prop where
  table_eq : updates.table = table
  length_eq : updates.updates.length = table.fieldCount
  keep_iff : ∀ index field, table.field? index = some field →
    (updates.updates[index]? = some .keep ↔ field.name ∉ given.map Prod.fst)
  setNull_iff : ∀ index field, table.field? index = some field →
    (updates.updates[index]? = some .setNull ↔ (field.name, none) ∈ given)
  set_iff : ∀ index field value, table.field? index = some field →
    (updates.updates[index]? = some (.set value) ↔ (field.name, some value) ∈ given)
  changed : updates.changes.map Prod.fst =
    table.fields.filter fun field => field.name ∈ given.map Prod.fst
  assigned : ∀ change ∈ updates.changes, (change.1.name, change.2) ∈ given

/-- In any order of entries with distinct keys, the same is found under a key. -/
theorem lookup_eq_of_perm (distinct : (first.map Prod.fst).Nodup) (same : first.Perm second)
    (name : String) : first.lookup name = second.lookup name := by
  have alsoDistinct : (second.map Prod.fst).Nodup := (same.map Prod.fst).nodup_iff.mp distinct
  apply Option.ext
  intro value
  rw [lookup_eq_some_iff_mem distinct, lookup_eq_some_iff_mem alsoDistinct, same.mem_iff]

/-- Assignments that make an update make one in any order. -/
theorem IsAssignable.perm (assignable : IsAssignable table first) (same : first.Perm second) :
    IsAssignable table second where
  ne_nil := fun none => assignable.ne_nil (List.perm_nil.mp (none ▸ same))
  suits := fun assignment member => assignable.suits assignment (same.mem_iff.mpr member)
  nodup := (same.map Prod.fst).nodup_iff.mp assignable.nodup

/-- An update that assignments make is made by them in any order. -/
theorem build_perm (same : first.Perm second) (built : build table first = .ok updates) :
    build table second = .ok updates := by
  rcases build_eq_ok_iff.mp built with ⟨assignable, sameTable, entries⟩
  apply build_eq_ok_iff.mpr
  refine ⟨assignable.perm same, sameTable, ?_⟩
  rw [entries]
  apply List.map_congr_left
  intro field _
  rw [updateOf, updateOf, lookup_eq_of_perm assignable.nodup same]

theorem exists_build_iff :
    (∃ updates, build table given = .ok updates) ↔ IsAssignable table given := by
  constructor
  · rintro ⟨updates, built⟩
    exact (build_eq_ok_iff.mp built).1
  · intro assignable
    exact ⟨⟨table, table.fields.map (updateOf given), List.length_map ..⟩,
      build_eq_ok_iff.mpr ⟨assignable, rfl, rfl⟩⟩

section Built

variable (built : build table given = .ok updates)

include built

theorem getElem?_updates {index : Nat} {field : Field} (found : table.field? index = some field) :
    updates.updates[index]? = some (updateOf given field) := by
  rw [(build_eq_ok_iff.mp built).2.2, List.getElem?_map, ← Table.field?, found, Option.map_some]

/-- The fields that change are those that are named. -/
theorem map_fst_changes :
    updates.changes.map Prod.fst =
      table.fields.filter fun field => field.name ∈ given.map Prod.fst := by
  rw [changes_of_build built, List.map_filterMap, ← List.filterMap_eq_filter]
  apply List.filterMap_congr
  intro field _
  by_cases named : field.name ∈ given.map Prod.fst
  · rcases Option.ne_none_iff_exists'.mp (mt lookup_eq_none_iff_notMem.mp (not_not.mpr named)) with
      ⟨value, found⟩
    simp [found, Option.guard, named]
  · simp [lookup_eq_none_iff_notMem.mpr named, Option.guard, named]

/-- A built update does what its assignments say. -/
theorem carriesOut_of_build : updates.CarriesOut table given := by
  rcases build_eq_ok_iff.mp built with ⟨assignable, sameTable, entries⟩
  constructor
  · exact sameTable
  · rw [entries, List.length_map, Table.fieldCount]
  · intro index field found
    rw [getElem?_updates built found, Option.some.injEq, updateOf_eq_keep_iff]
  · intro index field found
    rw [getElem?_updates built found, Option.some.injEq]
    exact updateOf_eq_ofValue_iff assignable.nodup field none
  · intro index field value found
    rw [getElem?_updates built found, Option.some.injEq]
    exact updateOf_eq_ofValue_iff assignable.nodup field (some value)
  · exact map_fst_changes built
  · intro change member
    rw [changes_of_build built] at member
    rcases List.mem_filterMap.mp member with ⟨field, _, changed⟩
    rcases Option.map_eq_some_iff.mp changed with ⟨value, found, rfl⟩
    exact (lookup_eq_some_iff_mem assignable.nodup).mp found

end Built

/-- The order of assignments makes no difference to whether they make an update, to what it does to
each field, or to the statement that it sends. They make one when there is an assignment, each
names a field that takes the value, and none names a field again; it does what they say. -/
theorem order_of_assignments_is_irrelevant (table : Table) {first second : List Assignment}
    (same : first.Perm second) :
    ((∃ updates, build table first = .ok updates) ↔
        ∃ updates, build table second = .ok updates) ∧
      (∀ one other, build table first = .ok one → build table second = .ok other →
        one.updates = other.updates ∧ ∀ selection environment,
          (one.statement selection environment).text =
            (other.statement selection environment).text) ∧
      ((∃ updates, build table first = .ok updates) ↔ IsAssignable table first) ∧
      ∀ updates, build table first = .ok updates → updates.CarriesOut table first := by
  refine ⟨?_, ?_, exists_build_iff, fun _ => carriesOut_of_build⟩
  · rw [exists_build_iff, exists_build_iff]
    exact ⟨fun assignable => assignable.perm same, fun assignable => assignable.perm same.symm⟩
  · intro one other oneBuilt otherBuilt
    cases (build_perm same oneBuilt).symm.trans otherBuilt
    exact ⟨rfl, fun _ _ => rfl⟩

/-- A hold that is shown for ever and is no longer fatal, said in either order. -/
theorem order_of_hold_assignments :
    ∃ one other,
      build School.holdType [("times_to_display", none), ("severity", some (.string "N"))] =
        .ok one ∧
      build School.holdType [("severity", some (.string "N")), ("times_to_display", none)] =
        .ok other ∧
      (∀ selection environment, (one.statement selection environment).text =
        (other.statement selection environment).text) ∧
      one.changes.map (fun change => change.1.name) = ["severity", "times_to_display"] := by
  have order := order_of_assignments_is_irrelevant School.holdType
    (List.Perm.swap ("severity", some (.string "N")) ("times_to_display", none) [])
  have named := congrArg (List.map Field.name) (order.2.2.2 _ rfl).changed
  rw [List.map_map] at named
  exact ⟨_, _, rfl, rfl, (order.2.1 _ _ rfl rfl).2, named.trans (by decide +kernel)⟩

end TableStore.Updates
