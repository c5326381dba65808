import TableStore.Hex

/-!
# Bytes read back

Each byte is written with two digits, and pairs of digits read back as the bytes.
-/

namespace TableStore.Hex

theorem digitValue?_digitChar {n : Nat} (small : n < 16) :
    digitValue? (Nat.digitChar n) = some n := by
  have all : ∀ n : Fin 16, digitValue? (Nat.digitChar n) = some n.val := by decide
  exact all ⟨n, small⟩

theorem ofByte_eq (byte : UInt8) :
    ofByte byte = [Nat.digitChar (byte.toNat / 16), Nat.digitChar (byte.toNat % 16)] := by
  have bound : byte.toNat < 256 := byte.toNat_lt
  have high : byte.toNat / 16 % 16 = byte.toNat / 16 := by omega
  simp [ofByte, padded, high]

/-- Bytes written in hexadecimal digits read back. -/
theorem readBytes?_flatMap_ofByte (bytes : List UInt8) :
    readBytes? (bytes.flatMap ofByte) = some bytes := by
  induction bytes with
  | nil => rfl
  | cons byte rest ih =>
      have bound : byte.toNat < 256 := byte.toNat_lt
      have high : digitValue? (Nat.digitChar (byte.toNat / 16)) = some (byte.toNat / 16) :=
        digitValue?_digitChar (by omega)
      have low : digitValue? (Nat.digitChar (byte.toNat % 16)) = some (byte.toNat % 16) :=
        digitValue?_digitChar (by omega)
      have whole : byte.toNat / 16 * 16 + byte.toNat % 16 = byte.toNat := by omega
      simp only [List.flatMap_cons, ofByte_eq, List.cons_append, List.nil_append, readBytes?,
        high, low, ih, Option.bind_eq_bind, Option.bind_some, pure, whole, UInt8.ofNat_toNat]

theorem mem_ofByte {byte : UInt8} {c : Char} (member : c ∈ ofByte byte) :
    ∃ n < 16, c = Nat.digitChar n := by
  have bound : byte.toNat < 256 := byte.toNat_lt
  rw [ofByte_eq] at member
  simp only [List.mem_cons, List.not_mem_nil, or_false] at member
  rcases member with rfl | rfl
  · exact ⟨_, by omega, rfl⟩
  · exact ⟨_, by omega, rfl⟩

end TableStore.Hex
