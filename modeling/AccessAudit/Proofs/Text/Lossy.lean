import AccessAudit.Proofs.Text.Decoding

/-!
# ASCII in encoded and in lossy text

Every byte below 0x80 is a character, and no character of more than one byte
has such a byte or is such a character.  So a lossy reading shows an ASCII
character only where its byte stands, whatever is malformed around it.
-/

namespace AccessAudit

namespace Utf8

/-- Beyond ASCII there are no bytes of ASCII. -/
theorem le_of_mem_encodeChar {c : Char} (beyond : 0x80 ≤ c.toNat)
    {byte : UInt8} (member : byte ∈ String.utf8EncodeChar c) :
    0x80 ≤ byte.toNat := by
  have notSmall : ¬c.val.toNat ≤ 0x7F := Nat.not_le.mpr beyond
  simp only [String.utf8EncodeChar] at member
  generalize c.val.toNat = value at notSmall member
  rw [if_neg notSmall] at member
  have high : ∀ number, 0x80 ≤ number → number < 256 →
      byte = UInt8.ofNat number → 0x80 ≤ byte.toNat := by
    rintro number large isByte rfl
    rwa [toNat_byte isByte]
  split at member
  · simp only [List.mem_cons, List.not_mem_nil, or_false] at member
    rcases member with first | second
    · exact high _ (by omega) (by omega) first
    · exact high _ (by omega) (by omega) second
  split at member
  · simp only [List.mem_cons, List.not_mem_nil, or_false] at member
    rcases member with first | second | third
    · exact high _ (by omega) (by omega) first
    · exact high _ (by omega) (by omega) second
    · exact high _ (by omega) (by omega) third
  · simp only [List.mem_cons, List.not_mem_nil, or_false] at member
    rcases member with first | second | third | fourth
    · exact high _ (by omega) (by omega) first
    · exact high _ (by omega) (by omega) second
    · exact high _ (by omega) (by omega) third
    · exact high _ (by omega) (by omega) fourth

/-- The byte of an ASCII character stands only where the character stands. -/
theorem mem_of_mem_encode {c : Char} (ascii : c.toNat < 0x80) {text : Text}
    (member : UInt8.ofNat c.toNat ∈ encode text) : c ∈ text := by
  obtain ⟨other, isOther, inside⟩ := List.mem_flatMap.mp member
  have isByte := toNat_byte (show c.toNat < 256 by omega)
  by_cases beyond : 0x80 ≤ other.toNat
  · have high := le_of_mem_encodeChar beyond inside
    omega
  · rw [encodeChar_ascii (by omega), List.mem_singleton] at inside
    have same := congrArg UInt8.toNat inside
    rw [isByte, toNat_byte (show other.toNat < 256 by omega)] at same
    rwa [Char.toNat_inj.mp same]

/-! ## Lossy reading -/

/-- Whatever follows, an unfinished character is none of ASCII. -/
structure Partial.Long (part : Partial) : Prop where
  low : 0x80 ≤ part.low
  high : part.high ≤ 0xBF
  bits : 2 ≤ part.bits ∨
    2 ≤ part.missing ∧ (1 ≤ part.bits ∨ 0x90 ≤ part.low)

theorem Partial.Long.of_lead {byte : UInt8} {part : Partial}
    (opens : lead byte = .opens part) : part.Long := by
  cases opens_of_lead opens with
  | two => constructor <;> simp only <;> omega
  | three => constructor <;> simp only <;> omega
  | four => constructor <;> simp only <;> omega

theorem Partial.Long.next {part : Partial} (long : part.Long) {byte : Nat}
    (admits : part.Admits byte) (more : ¬part.missing ≤ 1) :
    Partial.Long ⟨part.bits * 64 + byte % 64, part.missing - 1, 0x80,
      0xBF⟩ := by
  have above := long.low
  have below := long.high
  have bits := long.bits
  have low := admits.1
  have high := admits.2
  constructor <;> simp only <;> omega

theorem Partial.Long.le_last {part : Partial} (long : part.Long)
    (last : part.missing ≤ 1) (byte : Nat) :
    0x80 ≤ part.bits * 64 + byte % 64 := by
  have bits := long.bits
  omega

theorem cut_some_ne_nil (part : Partial) (bytes : Bytes) :
    cut (some part) bytes ≠ [] := by
  induction bytes generalizing part with
  | nil => simp [cut]
  | cons byte rest ih =>
      by_cases admits : part.Admits byte.toNat
      · by_cases last : part.missing ≤ 1
        · simp [cut_last admits last]
        · rw [cut_more admits last]
          exact ih _
      · simp [cut_refused admits]

theorem cut_eq_nil_iff {bytes : Bytes} : cut none bytes = [] ↔ bytes = [] := by
  cases bytes with
  | nil => simp [cut]
  | cons byte rest =>
      rw [cut]
      split
      · simp
      · next part _ => simp [cut_some_ne_nil part rest]
      · simp

theorem ne_replacement_of_ascii {c : Char} (ascii : c.toNat < 0x80) :
    c ≠ '\uFFFD' := by
  rintro rfl
  exact absurd ascii (by decide)

section

variable {c : Char} (positive : 0 < c.toNat) (ascii : c.toNat < 0x80)
include positive ascii

/-- A larger number is not that of an ASCII character, be it that of a
character or not. -/
theorem ofNat_ne_of_ascii {value : Nat} (large : 0x80 ≤ value) :
    Char.ofNat value ≠ c := by
  rintro rfl
  by_cases valid : value.isValidChar
  · have same : (Char.ofNat value).toNat = value :=
      toNat_ofNat_of_valid value valid
    omega
  · have none : (Char.ofNat value).toNat = 0 := by
      rw [Char.ofNat, dif_neg valid]
      rfl
    omega

/-- An unfinished character ends in no ASCII character. -/
theorem head?_cut_ne {part : Partial} (long : part.Long) (bytes : Bytes) :
    (cut (some part) bytes).head? ≠ some (some c) := by
  induction bytes generalizing part with
  | nil => simp [cut]
  | cons byte rest ih =>
      by_cases admits : part.Admits byte.toNat
      · by_cases last : part.missing ≤ 1
        · have other := ofNat_ne_of_ascii positive ascii
            (long.le_last last byte.toNat)
          simpa [cut_last admits last] using other
        · rw [cut_more admits last]
          exact ih (long.next admits last)
      · simp [cut_refused admits]

/-- The byte of an ASCII character that is read stands among the bytes. -/
theorem mem_of_mem_cut (bytes : Bytes) :
    (some c ∈ cut none bytes → UInt8.ofNat c.toNat ∈ bytes) ∧
      ∀ part : Partial, part.Long → some c ∈ cut (some part) bytes →
        UInt8.ofNat c.toNat ∈ bytes := by
  induction bytes with
  | nil => simp [cut]
  | cons byte rest ih =>
      have begins : some c ∈ cut none (byte :: rest) →
          UInt8.ofNat c.toNat ∈ byte :: rest := by
        intro member
        rw [cut] at member
        split at member
        · next single =>
            rcases List.mem_cons.mp member with same | later
            · cases same
              rw [← (eq_ofNat_of_lead single).2]
              exact List.mem_cons_self
            · exact List.mem_cons_of_mem byte (ih.1 later)
        · next part opens =>
            exact List.mem_cons_of_mem byte
              (ih.2 part (.of_lead opens) member)
        · rcases List.mem_cons.mp member with none | later
          · cases none
          · exact List.mem_cons_of_mem byte (ih.1 later)
      refine ⟨begins, ?_⟩
      intro part long member
      by_cases admits : part.Admits byte.toNat
      · by_cases last : part.missing ≤ 1
        · rw [cut_last admits last] at member
          rcases List.mem_cons.mp member with same | later
          · have other := ofNat_ne_of_ascii positive ascii
              (long.le_last last byte.toNat)
            exact absurd (Option.some.inj same).symm other
          · exact List.mem_cons_of_mem byte (ih.1 later)
        · rw [cut_more admits last] at member
          exact List.mem_cons_of_mem byte
            (ih.2 _ (long.next admits last) member)
      · rw [cut_refused admits] at member
        rcases List.mem_cons.mp member with none | anew
        · cases none
        · exact begins anew

theorem mem_of_mem_decodeLossy {bytes : Bytes}
    (member : c ∈ decodeLossy bytes) : UInt8.ofNat c.toNat ∈ bytes := by
  have notReplacement := ne_replacement_of_ascii ascii
  obtain ⟨item, isItem, shown⟩ := List.mem_map.mp member
  cases item with
  | none => exact absurd shown.symm notReplacement
  | some other =>
      cases shown
      exact (mem_of_mem_cut positive ascii bytes).1 isItem

/-- An ASCII character alone is read from its byte alone. -/
theorem eq_of_decodeLossy_eq_singleton {bytes : Bytes}
    (read : decodeLossy bytes = [c]) : bytes = [UInt8.ofNat c.toNat] := by
  have notReplacement := ne_replacement_of_ascii ascii
  obtain ⟨item, alone, shown⟩ := List.map_eq_singleton_iff.mp read
  cases item with
  | none => exact absurd shown.symm notReplacement
  | some other =>
      cases shown
      cases bytes with
      | nil => cases alone
      | cons byte rest =>
          rw [cut] at alone
          split at alone
          · next single =>
              obtain ⟨same, nothing⟩ := List.cons.inj alone
              cases same
              show byte :: rest = [UInt8.ofNat other.toNat]
              rw [cut_eq_nil_iff.mp nothing, (eq_ofNat_of_lead single).2]
          · next part opens =>
              have other := head?_cut_ne positive ascii (.of_lead opens) rest
              rw [alone] at other
              exact absurd rfl other
          · cases alone

end

theorem decodeLossy_eq_nil_iff {bytes : Bytes} :
    decodeLossy bytes = [] ↔ bytes = [] := by
  rw [decodeLossy, List.map_eq_nil_iff, cut_eq_nil_iff]

end Utf8

end AccessAudit
