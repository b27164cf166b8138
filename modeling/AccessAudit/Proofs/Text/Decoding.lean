import AccessAudit.Proofs.Text.ByteOrder

/-!
# Strict reading

Bytes without a malformed part are the encoding of a text, one leading byte
with its following bytes after the other.  So a strict reading undoes the
encoding, and reads nothing else.
-/

namespace AccessAudit

namespace Utf8

/-- The bytes encode a text. -/
def WellFormed (bytes : Bytes) : Prop :=
  ∃ text, encode text = bytes

theorem wellFormed_encode (text : Text) : WellFormed (encode text) :=
  ⟨text, rfl⟩

theorem encode_append (front back : Text) :
    encode (front ++ back) = encode front ++ encode back :=
  List.flatMap_append

theorem encodeChar_ascii {c : Char} (ascii : c.toNat < 0x80) :
    String.utf8EncodeChar c = [UInt8.ofNat c.toNat] := by
  have small : c.val.toNat ≤ 0x7F := Nat.le_of_lt_succ ascii
  rw [String.utf8EncodeChar]
  exact if_pos small

/-! ## Leading bytes -/

/-- The bounds of the second byte of two, of three and of four bytes. -/
inductive Opens (byte : Nat) : Partial → Prop
  | two (low : 0xC2 ≤ byte) (high : byte < 0xE0) :
      Opens byte ⟨byte % 32, 1, 0x80, 0xBF⟩
  | three {least greatest : Nat} (low : 0xE0 ≤ byte) (high : byte < 0xF0)
      (notOverlong : byte = 0xE0 → 0xA0 ≤ least)
      (notSurrogate : byte = 0xED → greatest ≤ 0x9F)
      (isTail : 0x80 ≤ least ∧ greatest ≤ 0xBF) :
      Opens byte ⟨byte % 16, 2, least, greatest⟩
  | four {least greatest : Nat} (low : 0xF0 ≤ byte) (high : byte < 0xF5)
      (notOverlong : byte = 0xF0 → 0x90 ≤ least)
      (inRange : byte = 0xF4 → greatest ≤ 0x8F)
      (isTail : 0x80 ≤ least ∧ greatest ≤ 0xBF) :
      Opens byte ⟨byte % 8, 3, least, greatest⟩

/-- What a leading byte can mean. -/
inductive IsLead (byte : UInt8) : Lead → Prop
  | single (ascii : byte.toNat < 0x80) :
      IsLead byte (.single (Char.ofNat byte.toNat))
  | opens {part : Partial} (opens : Opens byte.toNat part) :
      IsLead byte (.opens part)
  | malformed : IsLead byte .malformed

theorem isLead_lead (byte : UInt8) : IsLead byte (lead byte) := by
  rw [lead]
  split
  · next ascii => exact .single ascii
  split
  · exact .malformed
  split
  · exact .opens (.two (by omega) (by omega))
  split
  · exact .opens (.three (by omega) (by omega) (by omega) (by omega)
      (by omega))
  split
  · exact .opens (.three (by omega) (by omega) (by omega) (by omega)
      (by omega))
  split
  · exact .opens (.three (by omega) (by omega) (by omega) (by omega)
      (by omega))
  split
  · exact .opens (.four (by omega) (by omega) (by omega) (by omega)
      (by omega))
  split
  · exact .opens (.four (by omega) (by omega) (by omega) (by omega)
      (by omega))
  split
  · exact .opens (.four (by omega) (by omega) (by omega) (by omega)
      (by omega))
  · exact .malformed

theorem eq_ofNat_of_lead {byte : UInt8} {c : Char}
    (single : lead byte = .single c) :
    c.toNat < 0x80 ∧ byte = UInt8.ofNat c.toNat := by
  have isLead := isLead_lead byte
  rw [single] at isLead
  cases isLead with
  | single ascii =>
      have valid : byte.toNat.isValidChar := Or.inl (by omega)
      have same : (Char.ofNat byte.toNat).toNat = byte.toNat := by
        rw [Char.ofNat, dif_pos valid]
        rfl
      rw [same, UInt8.ofNat_toNat]
      exact ⟨ascii, rfl⟩

theorem opens_of_lead {byte : UInt8} {part : Partial}
    (opens : lead byte = .opens part) : Opens byte.toNat part := by
  have isLead := isLead_lead byte
  rw [opens] at isLead
  cases isLead with
  | opens opens => exact opens

/-- A byte that cannot come next begins anew behind a malformed part. -/
theorem cut_refused {part : Partial} {byte : UInt8}
    (refused : ¬part.Admits byte.toNat) (rest : Bytes) :
    cut (some part) (byte :: rest) = none :: cut none (byte :: rest) := by
  have outside : (decide (part.low ≤ byte.toNat) &&
      decide (byte.toNat ≤ part.high)) = false := by
    rw [Bool.eq_false_iff]
    intro inside
    rw [Bool.and_eq_true, decide_eq_true_eq, decide_eq_true_eq] at inside
    exact refused inside
  simp only [cut, outside, Bool.false_eq_true, if_false]
  cases lead byte <;> rfl

/-- An unfinished character without a malformed part goes on. -/
theorem exists_of_not_mem_cut {part : Partial} {rest : Bytes}
    (clean : none ∉ cut (some part) rest) :
    ∃ byte more, rest = byte :: more ∧ part.Admits byte.toNat := by
  cases rest with
  | nil => simp [cut] at clean
  | cons byte more =>
      by_cases admits : part.Admits byte.toNat
      · exact ⟨byte, more, rfl, admits⟩
      · rw [cut_refused admits] at clean
        exact absurd List.mem_cons_self clean

/-! ## Characters -/

theorem toNat_ofNat_of_valid (value : Nat) (valid : value.isValidChar) :
    (Char.ofNat value).val.toNat = value := by
  rw [Char.ofNat, dif_pos valid]
  rfl

theorem ofNat_eq {byte : UInt8} {number : Nat} (same : byte.toNat = number) :
    UInt8.ofNat number = byte := by
  rw [← same, UInt8.ofNat_toNat]

/-- Two bytes encode the character that is read from them. -/
theorem encodeChar_two {first second : UInt8} {value : Nat}
    (isValue : value = first.toNat % 32 * 64 + second.toNat % 64)
    (low : 0xC2 ≤ first.toNat) (high : first.toNat < 0xE0)
    (tail : 0x80 ≤ second.toNat ∧ second.toNat ≤ 0xBF) :
    String.utf8EncodeChar (Char.ofNat value) = [first, second] := by
  have number := toNat_ofNat_of_valid value (Or.inl (by omega))
  simp only [String.utf8EncodeChar, number]
  rw [if_neg (by omega), if_pos (by omega)]
  have isFirst : first.toNat = value / 64 % 32 + 192 := by omega
  have isSecond : second.toNat = value % 64 + 128 := by omega
  rw [ofNat_eq isFirst, ofNat_eq isSecond]

theorem encodeChar_three {first second third : UInt8} {value : Nat}
    (isValue : value =
      (first.toNat % 16 * 64 + second.toNat % 64) * 64 + third.toNat % 64)
    (low : 0xE0 ≤ first.toNat) (high : first.toNat < 0xF0)
    (notOverlong : first.toNat = 0xE0 → 0xA0 ≤ second.toNat)
    (notSurrogate : first.toNat = 0xED → second.toNat ≤ 0x9F)
    (tail : 0x80 ≤ second.toNat ∧ second.toNat ≤ 0xBF)
    (final : 0x80 ≤ third.toNat ∧ third.toNat ≤ 0xBF) :
    String.utf8EncodeChar (Char.ofNat value) = [first, second, third] := by
  have valid : value.isValidChar := by
    by_cases surrogates : first.toNat < 0xEE
    · exact Or.inl (by omega)
    · exact Or.inr ⟨by omega, by omega⟩
  have number := toNat_ofNat_of_valid value valid
  simp only [String.utf8EncodeChar, number]
  rw [if_neg (by omega), if_neg (by omega), if_pos (by omega)]
  have isFirst : first.toNat = value / 4096 % 16 + 224 := by omega
  have isSecond : second.toNat = value / 64 % 64 + 128 := by omega
  have isThird : third.toNat = value % 64 + 128 := by omega
  rw [ofNat_eq isFirst, ofNat_eq isSecond, ofNat_eq isThird]

theorem encodeChar_four {first second third fourth : UInt8} {value : Nat}
    (isValue : value =
      ((first.toNat % 8 * 64 + second.toNat % 64) * 64 +
        third.toNat % 64) * 64 + fourth.toNat % 64)
    (low : 0xF0 ≤ first.toNat) (high : first.toNat < 0xF5)
    (notOverlong : first.toNat = 0xF0 → 0x90 ≤ second.toNat)
    (inRange : first.toNat = 0xF4 → second.toNat ≤ 0x8F)
    (tail : 0x80 ≤ second.toNat ∧ second.toNat ≤ 0xBF)
    (next : 0x80 ≤ third.toNat ∧ third.toNat ≤ 0xBF)
    (final : 0x80 ≤ fourth.toNat ∧ fourth.toNat ≤ 0xBF) :
    String.utf8EncodeChar (Char.ofNat value) =
      [first, second, third, fourth] := by
  have number := toNat_ofNat_of_valid value (Or.inr ⟨by omega, by omega⟩)
  simp only [String.utf8EncodeChar, number]
  rw [if_neg (by omega), if_neg (by omega), if_neg (by omega)]
  have isFirst : first.toNat = value / 262144 % 8 + 240 := by omega
  have isSecond : second.toNat = value / 4096 % 64 + 128 := by omega
  have isThird : third.toNat = value / 64 % 64 + 128 := by omega
  have isFourth : fourth.toNat = value % 64 + 128 := by omega
  rw [ofNat_eq isFirst, ofNat_eq isSecond, ofNat_eq isThird,
    ofNat_eq isFourth]

/-! ## Texts -/

/-- Bytes without a malformed part begin with a character. -/
theorem exists_char_of_not_mem_cut {byte : UInt8} {rest : Bytes}
    (clean : none ∉ cut none (byte :: rest)) :
    ∃ c more, byte :: rest = String.utf8EncodeChar c ++ more ∧
      none ∉ cut none more ∧ more.length ≤ rest.length := by
  rw [cut] at clean
  split at clean
  · next c single =>
      obtain ⟨ascii, isByte⟩ := eq_ofNat_of_lead single
      refine ⟨c, rest, ?_, ?_, Nat.le_refl _⟩
      · rw [encodeChar_ascii ascii, ← isByte, List.singleton_append]
      · exact fun member => clean (List.mem_cons_of_mem _ member)
  · next part isLead =>
      obtain ⟨second, afterSecond, rfl, admitsSecond⟩ :=
        exists_of_not_mem_cut clean
      cases opens_of_lead isLead with
      | two low high =>
          have whole := encodeChar_two rfl low high admitsSecond
          rw [cut_last admitsSecond (Nat.le_refl 1)] at clean
          exact ⟨_, afterSecond, by rw [whole]; rfl,
            fun member => clean (List.mem_cons_of_mem _ member), by simp⟩
      | @three least greatest low high notOverlong notSurrogate tail =>
          rw [cut_more admitsSecond (by simp)] at clean
          obtain ⟨third, afterThird, rfl, admitsThird⟩ :=
            exists_of_not_mem_cut clean
          have bounds : least ≤ second.toNat ∧ second.toNat ≤ greatest :=
            admitsSecond
          have whole := @encodeChar_three byte second third _ rfl low high
            (by omega) (by omega) (by omega) admitsThird
          rw [cut_last admitsThird (Nat.le_refl 1)] at clean
          exact ⟨_, afterThird, by rw [whole]; rfl,
            fun member => clean (List.mem_cons_of_mem _ member),
            by simp only [List.length_cons]; omega⟩
      | @four least greatest low high notOverlong inRange tail =>
          rw [cut_more admitsSecond (by simp)] at clean
          obtain ⟨third, afterThird, rfl, admitsThird⟩ :=
            exists_of_not_mem_cut clean
          rw [cut_more admitsThird (by simp)] at clean
          obtain ⟨fourth, afterFourth, rfl, admitsFourth⟩ :=
            exists_of_not_mem_cut clean
          have bounds : least ≤ second.toNat ∧ second.toNat ≤ greatest :=
            admitsSecond
          have whole := @encodeChar_four byte second third fourth _ rfl low
            high (by omega) (by omega) (by omega) admitsThird admitsFourth
          rw [cut_last admitsFourth (Nat.le_refl 1)] at clean
          exact ⟨_, afterFourth, by rw [whole]; rfl,
            fun member => clean (List.mem_cons_of_mem _ member),
            by simp only [List.length_cons]; omega⟩
  · exact absurd List.mem_cons_self clean

theorem wellFormed_iff {bytes : Bytes} :
    WellFormed bytes ↔ none ∉ cut none bytes := by
  constructor
  · rintro ⟨text, rfl⟩
    simp [cut_encode]
  · intro clean
    induction h : bytes.length using Nat.strongRecOn generalizing bytes with
    | _ length ih =>
      cases bytes with
      | nil => exact ⟨[], rfl⟩
      | cons byte rest =>
          obtain ⟨c, more, whole, later, shorter⟩ :=
            exists_char_of_not_mem_cut clean
          obtain ⟨text, isMore⟩ := ih more.length
            (by rw [← h, List.length_cons]; omega) later rfl
          refine ⟨c :: text, ?_⟩
          rw [whole, ← isMore, encode_cons]

theorem mapM_id_eq_none {α : Type} {items : List (Option α)}
    (member : none ∈ items) : items.mapM id = none := by
  induction items with
  | nil => cases member
  | cons item rest ih =>
      rw [List.mapM_cons]
      cases item with
      | none => rfl
      | some found =>
          rw [ih (by simpa using member)]
          rfl

/-- A strict reading succeeds on encoded texts alone. -/
theorem decode?_eq_some_iff {bytes : Bytes} {text : Text} :
    decode? bytes = some text ↔ encode text = bytes := by
  constructor
  · intro read
    have clean : none ∉ cut none bytes := by
      intro malformed
      rw [decode?, mapM_id_eq_none malformed] at read
      cases read
    obtain ⟨other, rfl⟩ := wellFormed_iff.mpr clean
    rw [decode?_encode] at read
    rw [Option.some.inj read]
  · rintro rfl
    exact decode?_encode text

end Utf8

end AccessAudit
