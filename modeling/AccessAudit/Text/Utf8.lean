import AccessAudit.Text.Basic

/-!
# UTF-8

Encoding of a text, and decoding of arbitrary bytes.  Bytes are cut into
well-formed characters and maximal malformed parts; a strict reading refuses
malformed parts and a lossy reading writes U+FFFD for each of them.
-/

namespace AccessAudit

/-- The content of a file, or a name or path in the file system. -/
abbrev Bytes := List UInt8

namespace Utf8

/-- The UTF-8 encoding of a text. -/
def encode (text : Text) : Bytes :=
  text.flatMap String.utf8EncodeChar

/-- Where bytes are wanted, a text stands for its encoding. -/
instance : Coe Text Bytes := ⟨encode⟩

/-- A character of which some bytes have been read: the bits so far, the
number of bytes still missing, and the bounds of the next byte. -/
structure Partial where
  bits : Nat
  missing : Nat
  low : Nat
  high : Nat

/-- What one byte means at the start of a character. -/
inductive Lead
  | single (c : Char)
  | opens (part : Partial)
  | malformed

/-- The meaning of a leading byte.  The bounds on the second byte exclude
overlong forms, surrogates and numbers above U+10FFFF. -/
def lead (byte : UInt8) : Lead :=
  let b := byte.toNat
  if b < 0x80 then .single (Char.ofNat b)
  else if b < 0xC2 then .malformed
  else if b < 0xE0 then .opens ⟨b % 32, 1, 0x80, 0xBF⟩
  else if b = 0xE0 then .opens ⟨b % 16, 2, 0xA0, 0xBF⟩
  else if b = 0xED then .opens ⟨b % 16, 2, 0x80, 0x9F⟩
  else if b < 0xF0 then .opens ⟨b % 16, 2, 0x80, 0xBF⟩
  else if b = 0xF0 then .opens ⟨b % 8, 3, 0x90, 0xBF⟩
  else if b < 0xF4 then .opens ⟨b % 8, 3, 0x80, 0xBF⟩
  else if b = 0xF4 then .opens ⟨b % 8, 3, 0x80, 0x8F⟩
  else .malformed

/-- Cut bytes into characters and malformed parts (`none`), given what has
been read of an unfinished character. -/
def cut : Option Partial → Bytes → List (Option Char)
  | none, [] => []
  | some _, [] => [none]
  | none, byte :: rest =>
      match lead byte with
      | .single c => some c :: cut none rest
      | .opens part => cut (some part) rest
      | .malformed => none :: cut none rest
  | some part, byte :: rest =>
      let b := byte.toNat
      if part.low ≤ b && b ≤ part.high then
        let bits := part.bits * 64 + b % 64
        if part.missing ≤ 1 then
          some (Char.ofNat bits) :: cut none rest
        else
          cut (some ⟨bits, part.missing - 1, 0x80, 0xBF⟩) rest
      else
        match lead byte with
        | .single c => none :: some c :: cut none rest
        | .opens next => none :: cut (some next) rest
        | .malformed => none :: none :: cut none rest

/-- The text of well-formed bytes. -/
def decode? (bytes : Bytes) : Option Text :=
  (cut none bytes).mapM id

/-- The text of any bytes, with U+FFFD for each malformed part. -/
def decodeLossy (bytes : Bytes) : Text :=
  (cut none bytes).map (·.getD '\uFFFD')

example : decodeLossy [0x61, 0xE2, 0x28, 0xFF] = "a\uFFFD(\uFFFD".toList := by
  decide +kernel

end Utf8

end AccessAudit
