import AccessAudit.Text.Basic
import AccessAudit.Text.CaseData

/-!
# Lower-casing

Full Unicode lower-casing of a text.  Two characters need more than a table:
a capital I with a dot above becomes two characters, and a capital sigma
becomes a final sigma at the end of a word.  `foldToAscii` is simple case
folding, as far as it leads to an ASCII letter.
-/

namespace AccessAudit

namespace Text

/-- The lower-case form of one character, apart from the two special ones. -/
def lowerChar (c : Char) : Char :=
  if c.toNat < 128 then
    c.toLower
  else
    match lowerCaseRuns.findSome? (·.image? c.toNat) with
    | some code => Char.ofNat code
    | none => c

/-- Is the first character that is not ignored for case a cased one? -/
def casedAhead (text : Text) : Bool :=
  match text.dropWhile (fun c => inRanges caseIgnorableRanges c.toNat) with
  | c :: _ => inRanges casedRanges c.toNat
  | [] => false

/-- Lower-case a text; `before` holds the characters already passed, the
nearest first. -/
def lowerCaseAfter (before : Text) : Text → Text
  | [] => []
  | c :: rest =>
      let form :=
        if c = 'Σ' then
          [if casedAhead before && !casedAhead rest then 'ς' else 'σ']
        else if c = 'İ' then
          ['i', '\u0307']
        else
          [lowerChar c]
      form ++ lowerCaseAfter (c :: before) rest

/-- Full Unicode lower-casing. -/
def lowerCase (text : Text) : Text :=
  lowerCaseAfter [] text

/-- Simple case folding of the characters that fold to an ASCII letter: the
capitals, the long s and the Kelvin sign.  All others stay. -/
def foldToAscii (c : Char) : Char :=
  if c = 'ſ' then 's'
  else if c.toNat = 0x212A then 'k'
  else c.toLower

/-- Does a text begin with a lower-case ASCII word, up to case? -/
def startsWithFolded : Text → Text → Bool
  | _, [] => true
  | [], _ :: _ => false
  | c :: rest, letter :: letters =>
      foldToAscii c == letter && startsWithFolded rest letters

theorem startsWithFolded_iff (text word : Text) :
    startsWithFolded text word = true ↔
      word <+: text.map foldToAscii := by
  induction word generalizing text with
  | nil => simp [startsWithFolded]
  | cons letter letters ih =>
      cases text with
      | nil => simp [startsWithFolded]
      | cons c rest =>
          simp only [startsWithFolded, Bool.and_eq_true, beq_iff_eq, ih,
            List.map_cons, List.cons_prefix_cons]
          exact ⟨fun ⟨same, tail⟩ => ⟨same.symm, tail⟩,
            fun ⟨same, tail⟩ => ⟨same.symm, tail⟩⟩

example : lowerCase "ΟΔΟΣ Σ AİK".toList = "οδος σ ai\u0307k".toList := by
  decide +kernel

end Text

end AccessAudit
