import AccessAudit.Proofs.Text.Utf8

/-!
# The order of encoded texts

UTF-8 keeps the order of characters: of two characters the smaller one has the
smaller leading byte, or the same one and smaller bytes after it.  So texts in
the order of their characters are in the order of their bytes.
-/

namespace AccessAudit

namespace Utf8

/-- Whatever follows them, the first bytes come before the second ones. -/
def Precedes (first second : Bytes) : Prop :=
  ∀ rest more, first ++ rest < second ++ more

theorem precedes_of_lt {byte other : Nat} (less : byte < other)
    (isByte : other < 256) (first second : Bytes) :
    Precedes (UInt8.ofNat byte :: first) (UInt8.ofNat other :: second) := by
  intro rest more
  apply List.cons_lt_cons_iff.mpr
  left
  rw [UInt8.lt_iff_toNat_lt, toNat_byte isByte,
    toNat_byte (Nat.lt_trans less isByte)]
  exact less

theorem Precedes.cons {first second : Bytes}
    (later : Precedes first second) {byte other : Nat}
    (same : byte = other) :
    Precedes (UInt8.ofNat byte :: first) (UInt8.ofNat other :: second) := by
  intro rest more
  apply List.cons_lt_cons_iff.mpr
  right
  exact ⟨by rw [same], later rest more⟩

/-! ## Following bytes -/

theorem precedes_one {value other : Nat} (less : value % 64 < other % 64) :
    Precedes [UInt8.ofNat (value % 64 + 128)]
      [UInt8.ofNat (other % 64 + 128)] :=
  precedes_of_lt (by omega) (by omega) [] []

theorem precedes_two {value other : Nat}
    (less : value % 4096 < other % 4096) :
    Precedes
      [UInt8.ofNat (value / 64 % 64 + 128), UInt8.ofNat (value % 64 + 128)]
      [UInt8.ofNat (other / 64 % 64 + 128),
        UInt8.ofNat (other % 64 + 128)] := by
  by_cases first : value / 64 % 64 < other / 64 % 64
  · exact precedes_of_lt (by omega) (by omega) _ _
  · exact (precedes_one (by omega)).cons (by omega)

theorem precedes_three {value other : Nat}
    (less : value % 262144 < other % 262144) :
    Precedes
      [UInt8.ofNat (value / 4096 % 64 + 128),
        UInt8.ofNat (value / 64 % 64 + 128), UInt8.ofNat (value % 64 + 128)]
      [UInt8.ofNat (other / 4096 % 64 + 128),
        UInt8.ofNat (other / 64 % 64 + 128),
        UInt8.ofNat (other % 64 + 128)] := by
  by_cases first : value / 4096 % 64 < other / 4096 % 64
  · exact precedes_of_lt (by omega) (by omega) _ _
  · exact (precedes_two (by omega)).cons (by omega)

/-! ## Characters and texts -/

theorem precedes_encodeChar {c d : Char} (less : c < d) :
    Precedes (String.utf8EncodeChar c) (String.utf8EncodeChar d) := by
  have order : c.val.toNat < d.val.toNat := UInt32.lt_iff_toNat_lt.mp less
  have bound : d.val.toNat < 0x110000 := by
    rcases d.valid with low | ⟨_, high⟩
    · exact Nat.lt_trans low (by decide)
    · exact high
  simp only [String.utf8EncodeChar]
  generalize c.val.toNat = value at order
  generalize d.val.toNat = other at order bound
  -- A character with fewer bytes has the smaller leading byte.
  split
  · split
    · exact precedes_of_lt order (by omega) _ _
    split
    · exact precedes_of_lt (by omega) (by omega) _ _
    split
    · exact precedes_of_lt (by omega) (by omega) _ _
    · exact precedes_of_lt (by omega) (by omega) _ _
  split
  · split
    · omega
    split
    · by_cases lead : value / 64 % 32 < other / 64 % 32
      · exact precedes_of_lt (by omega) (by omega) _ _
      · exact (precedes_one (by omega)).cons (by omega)
    split
    · exact precedes_of_lt (by omega) (by omega) _ _
    · exact precedes_of_lt (by omega) (by omega) _ _
  split
  · split
    · omega
    split
    · omega
    split
    · by_cases lead : value / 4096 % 16 < other / 4096 % 16
      · exact precedes_of_lt (by omega) (by omega) _ _
      · exact (precedes_two (by omega)).cons (by omega)
    · exact precedes_of_lt (by omega) (by omega) _ _
  · split
    · omega
    split
    · omega
    split
    · omega
    · by_cases lead : value / 262144 % 8 < other / 262144 % 8
      · exact precedes_of_lt (by omega) (by omega) _ _
      · exact (precedes_three (by omega)).cons (by omega)

theorem encode_cons (c : Char) (rest : Text) :
    encode (c :: rest) = String.utf8EncodeChar c ++ encode rest := rfl

theorem encode_injective : Function.Injective encode := by
  intro text other same
  have decoded := congrArg decode? same
  simpa using decoded

theorem encode_lt_encode {text other : Text} (less : text < other) :
    encode text < encode other := by
  induction text generalizing other with
  | nil =>
      have longer : encode other ≠ [] := fun empty => by
        have same : other = [] := encode_injective empty
        rw [same] at less
        exact List.lt_irrefl [] less
      obtain ⟨byte, bytes, written⟩ := List.exists_cons_of_ne_nil longer
      rw [written]
      exact List.nil_lt_cons byte bytes
  | cons c rest ih =>
      cases other with
      | nil => exact absurd less (List.not_lt_nil _)
      | cons d more =>
          rw [encode_cons, encode_cons]
          rcases List.cons_lt_cons_iff.mp less with smaller | ⟨rfl, later⟩
          · exact precedes_encodeChar smaller _ _
          · exact List.append_left_lt (ih later)

end Utf8

end AccessAudit
