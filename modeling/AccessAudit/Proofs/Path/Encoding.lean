import AccessAudit.Proofs.Path.Parent
import AccessAudit.Proofs.Text.Lossy

/-!
# Paths of texts

The segments of an encoded text are the encodings of its segments, so that
well-formed paths have well-formed segments.  Segments are written in manifests
by their lossy reading, which keeps apart what slashes and dots say.
-/

namespace AccessAudit

namespace Utf8

theorem encode_joinWith (separator : Text) (parts : List Text) :
    encode (Text.joinWith separator parts) =
      Text.joinWith (encode separator) (parts.map encode) := by
  induction parts with
  | nil => rfl
  | cons first others ih =>
      cases others with
      | nil => rfl
      | cons second further =>
          simp only [Text.joinWith, encode_append, List.map_cons] at ih ⊢
          rw [ih]

end Utf8

namespace Path

open Utf8

theorem not_mem_encode {text : Text} (absent : '/' ∉ text) :
    slash ∉ encode text :=
  fun member => absent (mem_of_mem_encode (by decide) member)

theorem pieces_encode (text : Text) :
    Text.pieces slash (encode text) =
      (Text.pieces '/' text).map encode := by
  have joined := encode_joinWith ['/'] (Text.pieces '/' text)
  have separator : encode ['/'] = [slash] := by decide +kernel
  rw [Text.joinWith_pieces, separator] at joined
  rw [joined]
  apply Text.pieces_joinWith
  · simp [Text.pieces_ne_nil]
  · intro part member
    obtain ⟨piece, isPiece, rfl⟩ := List.mem_map.mp member
    exact not_mem_encode (Text.not_mem_of_mem_pieces isPiece)

theorem wellFormed_of_mem_pieces {path segment : Bytes}
    (wellFormed : WellFormed path)
    (member : segment ∈ Text.pieces slash path) : WellFormed segment := by
  obtain ⟨text, rfl⟩ := wellFormed
  rw [pieces_encode] at member
  obtain ⟨piece, _, rfl⟩ := List.mem_map.mp member
  exact wellFormed_encode piece

/-- Segments as a manifest shows them. -/
def shown (segments : List Bytes) : Text :=
  Text.joinWith "/" (segments.map decodeLossy)

@[simp]
theorem shown_nil : shown [] = [] := rfl

/-- A segment as a path in a manifest has it. -/
def respelled (segment : Bytes) : Bytes :=
  encode (decodeLossy segment)

theorem respelled_eq_self_iff {segment : Bytes} :
    respelled segment = segment ↔ WellFormed segment := by
  constructor
  · intro same
    exact ⟨_, same⟩
  · rintro ⟨text, rfl⟩
    rw [respelled, decodeLossy_encode]

theorem map_respelled_eq_self_iff {segments : List Bytes} :
    segments.map respelled = segments ↔
      ∀ segment ∈ segments, WellFormed segment := by
  simp only [← respelled_eq_self_iff]
  induction segments with
  | nil => simp
  | cons segment rest ih => simp [ih]

theorem encode_shown (segments : List Bytes) :
    encode (shown segments) =
      Text.joinWith [slash] (segments.map respelled) := by
  have separator : encode "/" = [slash] := by decide +kernel
  rw [shown, encode_joinWith, separator, List.map_map]
  rfl

/-! ## What a lossy reading keeps -/

theorem slash_not_mem_decodeLossy {segment : Bytes}
    (noSlash : slash ∉ segment) : '/' ∉ decodeLossy segment :=
  fun member => noSlash
    (mem_of_mem_decodeLossy (by decide) (by decide) member)

theorem isIdle_encode_iff {text : Text} :
    isIdle (encode text) = true ↔ text = [] ∨ text = ['.'] := by
  have empty : encode text = [] ↔ text = [] := encode_injective.eq_iff' rfl
  have single : encode text = [dot] ↔ text = ['.'] :=
    encode_injective.eq_iff' (by decide +kernel)
  simp [isIdle, empty, single]

theorem isIdle_respelled (segment : Bytes) :
    isIdle (respelled segment) = isIdle segment := by
  have single : decodeLossy segment = ['.'] ↔ segment = [dot] := by
    constructor
    · exact eq_of_decodeLossy_eq_singleton (by decide) (by decide)
    · rintro rfl
      decide +kernel
  rw [Bool.eq_iff_iff, respelled, isIdle_encode_iff, decodeLossy_eq_nil_iff,
    single]
  simp [isIdle]

theorem pieces_shown {segments : List Bytes} (nonempty : segments ≠ [])
    (noSlash : ∀ segment ∈ segments, slash ∉ segment) :
    Text.pieces '/' (shown segments) = segments.map decodeLossy := by
  apply Text.pieces_joinWith
  · simp [nonempty]
  · intro part member
    obtain ⟨segment, isSegment, rfl⟩ := List.mem_map.mp member
    exact slash_not_mem_decodeLossy (noSlash _ isSegment)

theorem pieces_encode_shown {segments : List Bytes} (nonempty : segments ≠ [])
    (noSlash : ∀ segment ∈ segments, slash ∉ segment) :
    Text.pieces slash (encode (shown segments)) =
      segments.map respelled := by
  rw [pieces_encode, pieces_shown nonempty noSlash, List.map_map]
  rfl

end Path

end AccessAudit
