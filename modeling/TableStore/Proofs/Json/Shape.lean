import TableStore.Json.Shape
import TableStore.Proofs.Json.Binary
import TableStore.Proofs.Json.Text

/-!
# Shapes read back

What is written as a record, as a choice or as a list is read back in the same shape: a member of a
record is found by its name, since no two members have one name, the content of a choice stands
under its name, and the elements of a list are read one by one.
-/

namespace TableStore.Json

open Binary Decimal

/-! ## Writing -/

theorem isWritten_record {members : List (String × Json)}
    (each : ∀ member ∈ members, IsWritten member.2) : (record members).IsWritten := by
  refine .object ?_ ?_
  · intro member given
    obtain ⟨_, -, rfl⟩ := List.mem_map.mp given
    rfl
  · intro member given
    obtain ⟨own, declared, rfl⟩ := List.mem_map.mp given
    exact each own declared

theorem isWritten_choice {name : String} {content : Json} (written : IsWritten content) :
    (choice name content).IsWritten := by
  refine isWritten_record fun member given => ?_
  rw [List.mem_singleton.mp given]
  exact written

theorem isWritten_strings (texts : List String) : (strings texts).IsWritten := by
  refine .array fun element given => ?_
  obtain ⟨text, -, rfl⟩ := List.mem_map.mp given
  exact .string text

theorem isWritten_ofInt (n : Int) : (ofInt n).IsWritten := by
  rw [ofInt, ← Numeral.chars_ofInt]
  exact .number (Numeral.isWellFormed_ofInt n)

theorem isWritten_ofBinary {format : Format} {range : PositionalRange} {x : Number format}
    (fits : FitsWord format) (bounded : range.greatest ≤ 18) :
    (ofBinary range x).IsWritten := by
  unfold ofBinary
  split
  · rename_i finite
    obtain ⟨n, wellFormed, chars, -⟩ := exists_writes_scientific range fits bounded finite
    rw [← chars]
    exact .number wellFormed
  · exact .null

theorem isWritten_ofDouble (x : Double) : (ofDouble x).IsWritten :=
  isWritten_ofBinary fitsWord_double (by decide)

theorem isWritten_ofSingle (x : Single) : (ofSingle x).IsWritten :=
  isWritten_ofBinary fitsWord_single (by decide)

/-! ## Reading -/

/-- Items that are each read from what is written for them are read together. -/
theorem mapM_map {α β γ : Type} {write : α → β} {read : β → Option γ} {result : α → γ}
    {xs : List α} (each : ∀ x ∈ xs, read (write x) = some (result x)) :
    (xs.map write).mapM read = some (xs.map result) := by
  induction xs with
  | nil => rfl
  | cons x xs ih =>
      rw [List.map_cons, List.mapM_cons, each x List.mem_cons_self,
        ih fun y member => each y (List.mem_cons_of_mem x member)]
      rfl

/-- A list is read when each of its elements is. -/
theorem list?_map {α : Type} {write : α → Json} {read : Json → Option α} {xs : List α}
    (each : ∀ x ∈ xs, read (write x) = some x) : (array (xs.map write)).list? read = some xs := by
  rw [list?, mapM_map each, List.map_id']

theorem namedMembers?_record (members : List (String × Json)) :
    namedMembers? (members.map fun (name, value) => (some name, value)) = some members := by
  rw [namedMembers?]
  refine (mapM_map ?_).trans (congrArg some (List.map_id members))
  exact fun _ _ => rfl

/-- Among members of different names, each is found by its name. -/
theorem uniqueMember?_of_mem {members : List (String × Json)} {name : String} {value : Json}
    (distinct : (members.map Prod.fst).Nodup) (member : (name, value) ∈ members) :
    uniqueMember? members name = some (some value) := by
  have alone : (members.filter fun other => other.1 == name) = [(name, value)] := by
    induction members with
    | nil => cases member
    | cons first members ih =>
        rw [List.map_cons, List.nodup_cons] at distinct
        rcases List.mem_cons.mp member with rfl | later
        · have others : ∀ other ∈ members, ¬(other.1 == name) = true := by
            intro other declared same
            exact distinct.1 (List.mem_map.mpr ⟨other, declared, beq_iff_eq.mp same⟩)
          rw [List.filter_cons_of_pos (by simp), List.filter_eq_nil_iff.mpr others]
        · have differs : ¬(first.1 == name) = true := by
            intro same
            exact distinct.1 (List.mem_map.mpr ⟨_, later, (beq_iff_eq.mp same).symm⟩)
          rw [List.filter_cons_of_neg (p := fun other : String × Json => other.1 == name)
            differs, ih distinct.2 later]
  rw [uniqueMember?, alone]

/-- A record is read by the names of its members. -/
theorem record?_record (strict : Bool) (members : List (String × Json))
    (distinct : (members.map Prod.fst).Nodup) :
    (record members).record? strict (members.map Prod.fst) =
      some (members.map fun member => some member.2) := by
  have known : (members.any fun member => !(members.map Prod.fst).contains member.1) = false := by
    rw [List.any_eq_false]
    intro member declared
    simp only [Bool.not_eq_true', Bool.not_eq_false, List.contains_iff_mem]
    exact List.mem_map_of_mem declared
  have each : (members.map Prod.fst).mapM (uniqueMember? members) =
      some (members.map fun member => some member.2) :=
    mapM_map fun _ declared => uniqueMember?_of_mem distinct declared
  rw [record, record?, namedMembers?_record, Option.bind_eq_bind, Option.bind_some, known,
    Bool.and_false, if_neg Bool.false_ne_true]
  exact each

end TableStore.Json
