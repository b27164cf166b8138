import AccessAudit.Path
import AccessAudit.Proofs.Text.Pieces

/-!
# A path and its parent

The segments of a path begin with those of its parent, and among the others
there is one that counts.
-/

namespace AccessAudit

namespace Path

/-- The segment that stands for the beginning of a path. -/
def Head.lead : Head → List Bytes
  | .root => [[]]
  | .current => [[dot]]
  | .bare => []

@[simp]
theorem isAbsolute_nil : isAbsolute [] = false := rfl

@[simp]
theorem isAbsolute_cons (byte : UInt8) (rest : Bytes) :
    isAbsolute (byte :: rest) = true ↔ byte = slash := by
  have first : isAbsolute (byte :: rest) = (slash == byte) := by
    simp [isAbsolute, Text.startsWith, List.isPrefixOf]
  rw [first, beq_iff_eq, eq_comm]

/-- A path is absolute exactly if its first piece is empty and not its only
one. -/
theorem isAbsolute_iff {path : Bytes} :
    isAbsolute path = true ↔
      ∃ second rest, Text.pieces slash path = [] :: second :: rest := by
  cases path with
  | nil => simp [Text.pieces]
  | cons byte others =>
      rw [isAbsolute_cons, Text.pieces]
      cases cut : Text.pieces slash others with
      | nil => exact absurd cut (Text.pieces_ne_nil slash others)
      | cons second rest =>
          by_cases isSlash : byte = slash
          · simp [isSlash]
          · simp [isSlash]

/-- The pieces of a path are its beginning and the segments after it. -/
theorem pieces_eq_lead_append {path : Bytes} (nonempty : path ≠ []) :
    Text.pieces slash path = (split path).1.lead ++ (split path).2 := by
  rw [split]
  cases cut : Text.pieces slash path with
  | nil => exact absurd cut (Text.pieces_ne_nil slash path)
  | cons first rest =>
      simp only [List.isEmpty_iff, nonempty, if_false]
      split
      · next absolute =>
          obtain ⟨second, others, whole⟩ := isAbsolute_iff.mp absolute
          rw [cut] at whole
          cases whole
          rfl
      · split
        · next dot =>
            rw [dot]
            rfl
        · rfl

theorem joinWith_cons {separator first : Bytes} {others : List Bytes}
    (more : others ≠ []) :
    Text.joinWith separator (first :: others) =
      first ++ separator ++ Text.joinWith separator others := by
  cases others with
  | nil => exact absurd rfl more
  | cons => rfl

theorem flatMap_slash_eq (first : Bytes) (segments : List Bytes) :
    first ++ segments.flatMap (slash :: ·) =
      Text.joinWith [slash] (first :: segments) := by
  induction segments generalizing first with
  | nil => simp [Text.joinWith]
  | cons segment rest ih =>
      rw [joinWith_cons (by simp), ← ih segment]
      simp

/-- A path is written as its beginning and its segments between slashes.  Of
the root alone this gives no slash. -/
theorem Head.write_eq_joinWith {head : Head} {segments : List Bytes}
    (notRoot : head = .root → segments ≠ []) :
    head.write segments =
      Text.joinWith [slash] (head.lead ++ segments) := by
  cases head with
  | root => simp [Head.write, Head.lead, joinWith_cons (notRoot rfl)]
  | current => exact flatMap_slash_eq [dot] segments
  | bare => rfl

/-- From the last segment that counts, two cuts backwards through idle
segments lead to the segments of the parent. -/
private theorem exists_append_of_dropWhile_reverse {segments : List Bytes}
    {last : Bytes} {before : List Bytes}
    (backwards : segments.reverse.dropWhile isIdle = last :: before) :
    ∃ rest, segments = (before.dropWhile isIdle).reverse ++ rest ∧
      last ∈ rest := by
  have beforeCut : before.reverse = (before.dropWhile isIdle).reverse ++
      (before.takeWhile isIdle).reverse := by
    rw [← List.reverse_append, List.takeWhile_append_dropWhile]
  have cut : segments.reverse =
      segments.reverse.takeWhile isIdle ++ last :: before := by
    rw [← backwards, List.takeWhile_append_dropWhile]
  have forwards := congrArg List.reverse cut
  refine ⟨(before.takeWhile isIdle).reverse ++ last ::
    (segments.reverse.takeWhile isIdle).reverse, ?_, by simp⟩
  simpa [beforeCut] using forwards

/-- The pieces of a path go on from those of its parent, with a segment that
counts. -/
theorem pieces_of_parent? {path parent : Bytes}
    (isParent : parent? path = some parent) (nonempty : parent ≠ [])
    (notRoot : parent ≠ [slash]) :
    ∃ rest, Text.pieces slash path = Text.pieces slash parent ++ rest ∧
      ∃ segment ∈ rest, isIdle segment = false := by
  have pathNonempty : path ≠ [] := by
    rintro rfl
    cases isParent
  have whole := pieces_eq_lead_append pathNonempty
  rw [parent?] at isParent
  generalize split path = parts at whole isParent
  obtain ⟨head, segments⟩ := parts
  simp only at whole isParent
  cases backwards : segments.reverse.dropWhile isIdle with
  | nil =>
      rw [backwards] at isParent
      simp only at isParent
      split at isParent
      · cases isParent
        exact absurd rfl nonempty
      · cases isParent
  | cons last before =>
      rw [backwards] at isParent
      simp only [Option.some.injEq] at isParent
      have lastCounts : isIdle last = false := by
        have stopped := List.head?_dropWhile_not isIdle segments.reverse
        rw [backwards] at stopped
        exact stopped
      obtain ⟨rest, segmentsCut, member⟩ :=
        exists_append_of_dropWhile_reverse backwards
      generalize (before.dropWhile isIdle).reverse = kept
        at isParent segmentsCut
      have written : parent = Text.joinWith [slash] (head.lead ++ kept) := by
        rw [← isParent]
        apply Head.write_eq_joinWith
        rintro rfl rfl
        exact notRoot isParent.symm
      have parentPieces : Text.pieces slash parent = head.lead ++ kept := by
        rw [written]
        apply Text.pieces_joinWith
        · intro none
          rw [none] at written
          exact nonempty written
        · intro part member
          apply @Text.not_mem_of_mem_pieces _ _ slash path part
          rw [whole, segmentsCut, ← List.append_assoc]
          exact List.mem_append_left _ member
      refine ⟨rest, ?_, last, member, lastCounts⟩
      rw [parentPieces, List.append_assoc, ← segmentsCut]
      exact whole

/-- A parent has no parent segments that the path does not have. -/
theorem not_mem_pieces_of_parent? {path parent : Bytes}
    (isParent : parent? path = some parent)
    (absent : [dot, dot] ∉ Text.pieces slash path) :
    [dot, dot] ∉ Text.pieces slash parent := by
  by_cases nonempty : parent = []
  · rw [nonempty]
    decide
  by_cases notRoot : parent = [slash]
  · rw [notRoot]
    decide
  obtain ⟨rest, whole, _⟩ := pieces_of_parent? isParent nonempty notRoot
  intro member
  exact absent (whole ▸ List.mem_append_left rest member)

theorem isAbsolute_of_parent? {path parent : Bytes}
    (isParent : parent? path = some parent) (nonempty : parent ≠ [])
    (notRoot : parent ≠ [slash]) :
    isAbsolute path = isAbsolute parent := by
  obtain ⟨rest, whole, _⟩ := pieces_of_parent? isParent nonempty notRoot
  rw [Bool.eq_iff_iff, isAbsolute_iff, isAbsolute_iff, whole]
  cases cut : Text.pieces slash parent with
  | nil => exact absurd cut (Text.pieces_ne_nil slash parent)
  | cons first others =>
      cases others with
      | cons second further => simp
      | nil =>
          have only : parent = first := by
            rw [← Text.joinWith_pieces slash parent, cut, Text.joinWith]
          simp [← only, nonempty]

/-- A path has a parent segment exactly if two dots are one of its
pieces. -/
theorem parent_mem_components_iff {path : Bytes} :
    Component.parent ∈ components path ↔
      [dot, dot] ∈ Text.pieces slash path := by
  by_cases nonempty : path = []
  · rw [nonempty]
    decide
  rw [pieces_eq_lead_append nonempty, components]
  generalize split path = parts
  obtain ⟨head, segments⟩ := parts
  have notHead : Component.parent ∉ head.components ∧
      [dot, dot] ∉ head.lead := by
    cases head <;> decide
  simp only [List.mem_append, notHead.1, notHead.2, false_or, List.mem_map,
    List.mem_filter]
  constructor
  · rintro ⟨segment, ⟨member, _⟩, same⟩
    rw [ofSegment] at same
    split at same
    · next dots =>
        have twoDots : segment = [dot, dot] := by simpa using dots
        exact twoDots ▸ member
    · cases same
  · intro member
    exact ⟨[dot, dot], ⟨member, by decide⟩, by decide⟩

end Path

end AccessAudit
