import AccessAudit.Text.Utf8

/-!
# Encoded text is read back

A character is encoded as a leading byte and up to three more.  The leading
byte tells how many bytes follow and bounds the next one, and every following
byte adds six bits.
-/

namespace AccessAudit

namespace Utf8

/-- Whether a byte may come next in an unfinished character. -/
def Partial.Admits (part : Partial) (byte : Nat) : Prop :=
  part.low ≤ byte ∧ byte ≤ part.high

theorem admits_tail (bits missing number : Nat) :
    Partial.Admits ⟨bits, missing, 0x80, 0xBF⟩ (number % 64 + 128) := by
  simp only [Partial.Admits]
  omega

theorem toNat_byte {byte : Nat} (isByte : byte < 256) :
    (UInt8.ofNat byte).toNat = byte :=
  UInt8.toNat_ofNat_of_lt isByte

theorem cut_last {part : Partial} {byte : UInt8}
    (admits : part.Admits byte.toNat) (last : part.missing ≤ 1)
    (rest : Bytes) :
    cut (some part) (byte :: rest) =
      some (Char.ofNat (part.bits * 64 + byte.toNat % 64)) ::
        cut none rest := by
  simp [cut, admits.1, admits.2, last]

theorem cut_more {part : Partial} {byte : UInt8}
    (admits : part.Admits byte.toNat) (more : ¬part.missing ≤ 1)
    (rest : Bytes) :
    cut (some part) (byte :: rest) =
      cut (some ⟨part.bits * 64 + byte.toNat % 64, part.missing - 1, 0x80,
        0xBF⟩) rest := by
  simp [cut, admits.1, admits.2, more]

theorem cut_last_ofNat {part : Partial} {byte : Nat}
    (admits : part.Admits byte) (isByte : byte < 256)
    (last : part.missing = 1) (rest : Bytes) :
    cut (some part) (UInt8.ofNat byte :: rest) =
      some (Char.ofNat (part.bits * 64 + byte % 64)) :: cut none rest := by
  rw [← toNat_byte isByte] at admits
  rw [cut_last admits (Nat.le_of_eq last), toNat_byte isByte]

theorem cut_more_ofNat {part : Partial} {byte more : Nat}
    (admits : part.Admits byte) (isByte : byte < 256)
    (missing : part.missing = more + 2) (rest : Bytes) :
    cut (some part) (UInt8.ofNat byte :: rest) =
      cut (some ⟨part.bits * 64 + byte % 64, more + 1, 0x80, 0xBF⟩) rest := by
  rw [← toNat_byte isByte] at admits
  rw [cut_more admits (by omega), toNat_byte isByte, missing]
  rfl

theorem cut_opens {byte : UInt8} {part : Partial}
    (opens : lead byte = .opens part) (rest : Bytes) :
    cut none (byte :: rest) = cut (some part) rest := by
  rw [cut, opens]

/-! ## Leading bytes -/

theorem lead_one {value : Nat} (small : value < 0x80) :
    lead (UInt8.ofNat value) = .single (Char.ofNat value) := by
  simp [lead, toNat_byte (show value < 256 by omega), small]

theorem lead_two (front : Nat) (low : 2 ≤ front) (high : front < 32) :
    lead (UInt8.ofNat (front + 192)) = .opens ⟨front, 1, 0x80, 0xBF⟩ := by
  have same := toNat_byte (show front + 192 < 256 by omega)
  have bits : (front + 192) % 32 = front := by omega
  simp only [lead, same, bits]
  rw [if_neg (by omega), if_neg (by omega), if_pos (by omega)]

/-- After the leading byte of three, the bounds leave out overlong forms and
surrogates. -/
theorem lead_three (front next : Nat) (high : front < 16) (isTail : next < 64)
    (notOverlong : front = 0 → 32 ≤ next)
    (notSurrogate : front = 13 → next < 32) :
    ∃ part, lead (UInt8.ofNat (front + 224)) = .opens part ∧
      part.bits = front ∧ part.missing = 2 ∧ part.Admits (next + 128) := by
  have same := toNat_byte (show front + 224 < 256 by omega)
  have bits : (front + 224) % 16 = front := by omega
  simp only [lead, same, bits]
  rw [if_neg (by omega), if_neg (by omega), if_neg (by omega)]
  by_cases first : front + 224 = 0xE0
  · rw [if_pos first]
    exact ⟨_, rfl, rfl, rfl, by simp only [Partial.Admits]; omega⟩
  rw [if_neg first]
  by_cases surrogate : front + 224 = 0xED
  · rw [if_pos surrogate]
    exact ⟨_, rfl, rfl, rfl, by simp only [Partial.Admits]; omega⟩
  rw [if_neg surrogate, if_pos (by omega)]
  exact ⟨_, rfl, rfl, rfl, by simp only [Partial.Admits]; omega⟩

/-- After the leading byte of four, the bounds leave out overlong forms and
what lies above U+10FFFF. -/
theorem lead_four (front next : Nat) (high : front < 5) (isTail : next < 64)
    (notOverlong : front = 0 → 16 ≤ next) (inRange : front = 4 → next < 16) :
    ∃ part, lead (UInt8.ofNat (front + 240)) = .opens part ∧
      part.bits = front ∧ part.missing = 3 ∧ part.Admits (next + 128) := by
  have same := toNat_byte (show front + 240 < 256 by omega)
  have bits : (front + 240) % 8 = front := by omega
  simp only [lead, same, bits]
  rw [if_neg (by omega), if_neg (by omega), if_neg (by omega),
    if_neg (by omega), if_neg (by omega), if_neg (by omega)]
  by_cases first : front + 240 = 0xF0
  · rw [if_pos first]
    exact ⟨_, rfl, rfl, rfl, by simp only [Partial.Admits]; omega⟩
  rw [if_neg first]
  by_cases middle : front + 240 < 0xF4
  · rw [if_pos middle]
    exact ⟨_, rfl, rfl, rfl, by simp only [Partial.Admits]; omega⟩
  rw [if_neg middle, if_pos (by omega)]
  exact ⟨_, rfl, rfl, rfl, by simp only [Partial.Admits]; omega⟩

/-! ## Characters -/

theorem cut_encodeChar (c : Char) (rest : Bytes) :
    cut none (String.utf8EncodeChar c ++ rest) = some c :: cut none rest := by
  have back : Char.ofNat c.val.toNat = c := Char.ofNat_toNat c
  have valid : c.val.toNat < 0xD800 ∨
      0xDFFF < c.val.toNat ∧ c.val.toNat < 0x110000 := c.valid
  simp only [String.utf8EncodeChar]
  generalize c.val.toNat = value at back valid
  split
  · next small =>
      rw [List.singleton_append, cut, lead_one (by omega)]
      simp only [back]
  split
  · rw [Nat.mod_eq_of_lt (show value / 64 < 32 by omega)]
    have opens := lead_two (value / 64) (by omega) (by omega)
    simp only [List.cons_append, List.nil_append]
    rw [cut_opens opens, cut_last_ofNat (admits_tail _ _ value) (by omega) rfl]
    have whole : value / 64 * 64 + (value % 64 + 128) % 64 = value := by omega
    rw [whole, back]
  split
  · rw [Nat.mod_eq_of_lt (show value / 4096 < 16 by omega)]
    obtain ⟨part, opens, bits, missing, admits⟩ :=
      lead_three (value / 4096) (value / 64 % 64) (by omega) (by omega)
        (by omega) (by omega)
    simp only [List.cons_append, List.nil_append]
    rw [cut_opens opens, cut_more_ofNat admits (by omega) missing,
      cut_last_ofNat (admits_tail _ _ value) (by omega) rfl, bits]
    have whole : (value / 4096 * 64 + (value / 64 % 64 + 128) % 64) * 64 +
        (value % 64 + 128) % 64 = value := by omega
    rw [whole, back]
  · rw [Nat.mod_eq_of_lt (show value / 262144 < 8 by omega)]
    obtain ⟨part, opens, bits, missing, admits⟩ :=
      lead_four (value / 262144) (value / 4096 % 64) (by omega) (by omega)
        (by omega) (by omega)
    simp only [List.cons_append, List.nil_append]
    rw [cut_opens opens, cut_more_ofNat admits (by omega) missing,
      cut_more_ofNat (admits_tail _ _ (value / 64)) (by omega) rfl,
      cut_last_ofNat (admits_tail _ _ value) (by omega) rfl, bits]
    have whole : ((value / 262144 * 64 + (value / 4096 % 64 + 128) % 64) * 64 +
        (value / 64 % 64 + 128) % 64) * 64 + (value % 64 + 128) % 64 =
          value := by omega
    rw [whole, back]

theorem cut_encode (text : Text) : cut none (encode text) = text.map some := by
  induction text with
  | nil => rfl
  | cons c rest ih =>
      have step : encode (c :: rest) =
          String.utf8EncodeChar c ++ encode rest := rfl
      rw [step, cut_encodeChar, ih, List.map_cons]

@[simp]
theorem decode?_encode (text : Text) : decode? (encode text) = some text := by
  rw [decode?, cut_encode]
  induction text with
  | nil => rfl
  | cons c rest ih => simp [List.mapM_cons, ih]

@[simp]
theorem decodeLossy_encode (text : Text) :
    decodeLossy (encode text) = text := by
  simp [decodeLossy, cut_encode, Function.comp_def]

end Utf8

end AccessAudit
