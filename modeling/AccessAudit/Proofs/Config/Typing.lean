import AccessAudit.Config.OfDocument

/-!
# Typed configuration documents

A document is well-typed if each known key that it gives has a value of the
type that the key asks for.  What is under an unknown key may be of any type,
but is read all the same, so its numbers must be small enough to be held.
-/

namespace AccessAudit

namespace Toml

/-- Every number in the value is small enough to be held. -/
def Value.Held (value : Value) : Prop :=
  value.firstOutOfRange? = none

end Toml

namespace Config

open Toml (Document Value)

/-- The value is what is expected. -/
inductive Expected.Accepts : Expected → Value → Prop
  | string (text : Text) : Accepts .string (.string text)
  | path (text : Text) : Accepts .path (.string text)
  | boolean (switch : Bool) : Accepts .boolean (.boolean switch)

/-- The value is what the key asks for. -/
inductive FieldType.Accepts : FieldType → Value → Prop
  | one {expected : Expected} {value : Value}
      (accepted : expected.Accepts value) : Accepts (.one expected) value
  | many {expected : Expected} {items : List Value}
      (accepted : ∀ item ∈ items, expected.Accepts item) :
      Accepts (.many expected) (.array items)

/-- The value is a section, and its known keys have what they ask for. -/
inductive SectionType.Accepts (type : SectionType) (value : Value) : Prop
  | intro {entries : List (Text × Value)}
      (isSection : type.entries? value = some entries)
      (typed : ∀ entry ∈ entries, ∀ field,
        type.fields.lookup entry.1 = some field → field.Accepts entry.2)

/-- All known keys of the document have what they ask for. -/
structure WellTyped (document : Document) : Prop where
  version : ∀ entry ∈ document, entry.1 = "version" →
    Expected.string.Accepts entry.2
  sections : ∀ entry ∈ document, ∀ type ∈ sections, entry.1 = type.name →
    type.Accepts entry.2

/-- The numbers under keys that a section does not know can be held. -/
def SectionType.HoldsUnknown (type : SectionType) (value : Value) : Prop :=
  ∀ entries, type.entries? value = some entries → ∀ entry ∈ entries,
    type.fields.lookup entry.1 = none → entry.2.Held

/-- No section and no setting at the top of a document has this key. -/
def UnknownKey (key : Text) : Prop :=
  key ≠ "version" ∧ ∀ type ∈ sections, key ≠ type.name

/-- The numbers under unknown keys, at the top and in sections, can be
held. -/
structure HoldsUnknown (document : Document) : Prop where
  top : ∀ entry ∈ document, UnknownKey entry.1 → entry.2.Held
  sections : ∀ entry ∈ document, ∀ type ∈ sections, entry.1 = type.name →
    type.HoldsUnknown entry.2

theorem Expected.problem?_eq_none_iff {expected : Expected}
    {value : Value} :
    expected.problem? value = none ↔ expected.Accepts value := by
  constructor
  · intro noProblem
    rw [problem?.eq_def] at noProblem
    split at noProblem
    · exact .string _
    · exact .path _
    · exact .boolean _
    · cases noProblem
  · rintro (_ | _ | _) <;> rfl

theorem FieldType.problem?_eq_none_iff {type : FieldType} {value : Value} :
    type.problem? value = none ↔ type.Accepts value := by
  constructor
  · intro noProblem
    rw [problem?.eq_def] at noProblem
    split at noProblem
    · exact .one (Expected.problem?_eq_none_iff.mp noProblem)
    · apply Accepts.many
      intro item member
      exact Expected.problem?_eq_none_iff.mp
        (List.findSome?_eq_none_iff.mp noProblem item member)
    · cases noProblem
  · intro accepts
    cases accepts with
    | one accepted => exact Expected.problem?_eq_none_iff.mpr accepted
    | many accepted =>
        apply List.findSome?_eq_none_iff.mpr
        intro item member
        exact Expected.problem?_eq_none_iff.mpr (accepted item member)

theorem ignoredProblem?_eq_none_iff {value : Value} :
    ignoredProblem? value = none ↔ value.Held :=
  Option.map_eq_none_iff

theorem SectionType.entryProblem?_eq_none_iff {type : SectionType}
    {entry : Text × Value} :
    type.entryProblem? entry = none ↔
      (∀ field, type.fields.lookup entry.1 = some field →
        field.Accepts entry.2) ∧
      (type.fields.lookup entry.1 = none → entry.2.Held) := by
  rw [entryProblem?]
  cases type.fields.lookup entry.1 with
  | none => simp [ignoredProblem?_eq_none_iff]
  | some field => simp [FieldType.problem?_eq_none_iff]

theorem SectionType.problem?_eq_none_iff {type : SectionType}
    {value : Value} :
    type.problem? value = none ↔
      type.Accepts value ∧ type.HoldsUnknown value := by
  rw [problem?]
  cases isSection : type.entries? value with
  | none =>
      apply iff_of_false (Option.some_ne_none _)
      rintro ⟨⟨isOther, _⟩, _⟩
      cases isSection.symm.trans isOther
  | some entries =>
      simp only [List.findSome?_eq_none_iff, entryProblem?_eq_none_iff]
      constructor
      · intro noProblem
        refine ⟨.intro isSection fun entry member => ?_, ?_⟩
        · exact (noProblem entry member).1
        · intro others isOther entry member
          cases isSection.symm.trans isOther
          exact (noProblem entry member).2
      · rintro ⟨⟨isOther, typed⟩, holds⟩ entry member
        cases isSection.symm.trans isOther
        exact ⟨typed entry member, holds entries isSection entry member⟩

/-- A section is found by its name, which is not the key of the version. -/
theorem find?_sections (name : Text) :
    ∀ type ∈ sections, name = type.name →
      sections.find? (·.name = name) = some type ∧
        name ≠ "version".toList := by
  rintro type member rfl
  simp only [sections, List.mem_cons, List.not_mem_nil, or_false] at member
  rcases member with rfl | rfl | rfl <;> exact ⟨rfl, by decide⟩

theorem entryProblem?_eq_none_iff {entry : Text × Value} :
    entryProblem? entry = none ↔
      (entry.1 = "version" → Expected.string.Accepts entry.2) ∧
      (∀ type ∈ sections, entry.1 = type.name →
        type.Accepts entry.2 ∧ type.HoldsUnknown entry.2) ∧
      (UnknownKey entry.1 → entry.2.Held) := by
  rw [entryProblem?]
  split
  · next isVersion =>
      rw [Expected.problem?_eq_none_iff]
      constructor
      · intro accepted
        refine ⟨fun _ => accepted, fun type member same => ?_,
          fun isUnknown => absurd isVersion isUnknown.1⟩
        exact absurd isVersion (find?_sections entry.1 type member same).2
      · rintro ⟨accepted, _⟩
        exact accepted isVersion
  · next other =>
      rw [and_iff_right fun isVersion => absurd isVersion other]
      split
      · next type found =>
          have same : entry.1 = type.name := by
            simpa [eq_comm] using List.find?_some found
          have isSection := List.mem_of_find?_eq_some found
          rw [SectionType.problem?_eq_none_iff]
          constructor
          · intro accepted
            refine ⟨fun another member sameName => ?_,
              fun isUnknown => absurd same (isUnknown.2 type isSection)⟩
            have foundToo := (find?_sections entry.1 another member sameName).1
            cases found.symm.trans foundToo
            exact accepted
          · rintro ⟨accepted, _⟩
            exact accepted type isSection same
      · next notFound =>
          have noSection : ∀ type ∈ sections, entry.1 ≠ type.name := by
            intro type member same
            have found := (find?_sections entry.1 type member same).1
            cases notFound.symm.trans found
          rw [ignoredProblem?_eq_none_iff]
          constructor
          · intro held
            exact ⟨fun type member same =>
              absurd same (noSection type member), fun _ => held⟩
          · rintro ⟨_, holds⟩
            exact holds ⟨other, noSection⟩

/-- A document has no problem exactly if its known keys have what they ask
for and the numbers under the other keys can be held. -/
theorem problem?_eq_none_iff {document : Document} :
    problem? document = none ↔
      WellTyped document ∧ HoldsUnknown document := by
  simp only [problem?, List.findSome?_eq_none_iff,
    entryProblem?_eq_none_iff]
  constructor
  · intro noProblem
    refine ⟨⟨?_, ?_⟩, ⟨?_, ?_⟩⟩
    · intro entry member
      exact (noProblem entry member).1
    · intro entry member type isSection same
      exact ((noProblem entry member).2.1 type isSection same).1
    · intro entry member
      exact (noProblem entry member).2.2
    · intro entry member type isSection same
      exact ((noProblem entry member).2.1 type isSection same).2
  · rintro ⟨typed, holds⟩ entry member
    refine ⟨typed.version entry member, ?_, holds.top entry member⟩
    intro type isSection same
    exact ⟨typed.sections entry member type isSection same,
      holds.sections entry member type isSection same⟩

end Config

end AccessAudit
