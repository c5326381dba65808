import TableStore.Proofs.Table.Basic

/-!
# Identifiers on a server

A server keeps at most sixty-three bytes of an identifier: as many of its characters from the
front as fit. An identifier that fits is kept as it is.

A declared name always fits, because its characters take one byte each.
-/

namespace TableStore

namespace Server

/-- The bytes of an identifier that a server keeps. -/
def identifierBytes : Nat := 63

/-- As many characters from the front as fit into a number of bytes. -/
def keepBytes : Nat → List Char → List Char
  | _, [] => []
  | room, c :: rest => if c.utf8Size ≤ room then c :: keepBytes (room - c.utf8Size) rest else []

/-- The identifier that a server takes a name for. -/
def resolvedName (name : String) : String :=
  String.ofList (keepBytes identifierBytes name.toList)

/-- What fits is kept, and nothing else is kept whole. -/
theorem keepBytes_eq_self_iff (room : Nat) (text : List Char) :
    keepBytes room text = text ↔ String.utf8Len text ≤ room := by
  induction text generalizing room with
  | nil => simp [keepBytes]
  | cons c rest ih =>
      rw [keepBytes, String.utf8Len_cons]
      split
      · rename_i fits
        rw [List.cons_inj_right, ih]
        omega
      · rename_i exceeds
        constructor
        · rintro ⟨⟩
        · omega

/-- A beginning that fits is kept, and what follows it has the room that is left. -/
theorem keepBytes_append {room : Nat} {first : List Char} (fits : String.utf8Len first ≤ room)
    (second : List Char) :
    keepBytes room (first ++ second) =
      first ++ keepBytes (room - String.utf8Len first) second := by
  induction first generalizing room with
  | nil => rfl
  | cons c rest ih =>
      rw [String.utf8Len_cons] at fits ⊢
      rw [List.cons_append, keepBytes, if_pos (by omega), ih (by omega), List.cons_append]
      congr 3
      omega

/-- A server takes a name for itself exactly when the name fits. -/
theorem resolvedName_eq_self_iff (name : String) :
    resolvedName name = name ↔ name.utf8ByteSize ≤ identifierBytes := by
  rw [← String.utf8Len_toList, ← keepBytes_eq_self_iff, ← String.toList_inj, resolvedName,
    String.toList_ofList]

end Server

/-! ## Declared names -/

namespace Name

/-- A name fits, because it has no more bytes than are kept. -/
theorem utf8ByteSize_le_of_isValid {name : String} (valid : isValid name = true) :
    name.utf8ByteSize ≤ Server.identifierBytes := by
  obtain ⟨_, _, -, -, -, short⟩ := (isValid_iff name).mp valid
  exact short

end Name

namespace Table

variable (table : Table)

theorem isValid_schema : Name.isValid table.schema = true :=
  (Name.isValid_iff _).mpr table.isLegal.schema

theorem isValid_name : Name.isValid table.name = true :=
  (Name.isValid_iff _).mpr table.isLegal.name

theorem isValid_fieldNames : ∀ name ∈ table.fieldNames, Name.isValid name = true := by
  intro name member
  obtain ⟨field, declared, rfl⟩ := List.mem_map.mp member
  exact (Name.isValid_iff _).mpr (table.isLegal.fieldNames field declared)

end Table

end TableStore
