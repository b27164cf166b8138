import AccessAudit.Glob

/-!
# What a pattern leaves of a path

`Leaves` says item by item what a pattern may take off the front of a path.
The lists of remainders hold what is left by some such choice, and a pattern
that begins with `**/` may begin to match after any slash.
-/

namespace AccessAudit

namespace Glob

variable {separator : Separator}

/-- A pattern may take a part of the first path and leave the second. -/
inductive Leaves (separator : Separator) : Pattern → Bytes → Bytes → Prop
  | done (path : Bytes) : Leaves separator [] path path
  | item {token : Token} {tokens : Pattern} {path next rest : Bytes}
      (taken : next ∈ token.leaves separator path)
      (later : Leaves separator tokens next rest) :
      Leaves separator (token :: tokens) path rest
  | vacant {branches : List Pattern} {tokens : Pattern}
      {path rest : Bytes} (isVacant : vacantBranches branches = true)
      (later : Leaves separator tokens path rest) :
      Leaves separator (.alternates branches :: tokens) path rest
  | branch {branches : List Pattern} {branch tokens : Pattern}
      {path next rest : Bytes} (member : branch ∈ branches)
      (notVacant : vacantPattern branch = false)
      (taken : Leaves separator branch path next)
      (later : Leaves separator tokens next rest) :
      Leaves separator (.alternates branches :: tokens) path rest

/-! ## Remainders are ends -/

theorem suffix_of_mem_tailsWhile {admits : UInt8 → Bool}
    {path rest : Bytes} (member : rest ∈ tailsWhile admits path) :
    rest <:+ path := by
  induction path with
  | nil =>
      have same : rest = [] := by simpa [tailsWhile] using member
      exact same ▸ List.suffix_refl []
  | cons byte others ih =>
      rw [tailsWhile] at member
      split at member
      · rcases List.mem_cons.mp member with same | later
        · exact same ▸ List.suffix_refl _
        · exact (ih later).trans (List.suffix_cons byte others)
      · have same : rest = byte :: others := by simpa using member
        exact same ▸ List.suffix_refl _

theorem suffix_of_mem_afterSlashes {path rest : Bytes}
    (member : rest ∈ afterSlashes path) : rest <:+ path := by
  induction path with
  | nil => simp [afterSlashes] at member
  | cons byte others ih =>
      have further := List.suffix_cons byte others
      rw [afterSlashes] at member
      split at member
      · rcases List.mem_cons.mp member with same | later
        · exact same ▸ further
        · exact (ih later).trans further
      · exact (ih member).trans further

theorem Token.suffix_of_mem_leaves {token : Token} {path rest : Bytes}
    (member : rest ∈ token.leaves separator path) : rest <:+ path := by
  cases token with
  | literal c =>
      simp only [leaves, dropLead?] at member
      split at member
      · have same : rest = path.drop (bytesOf c).length := by
          simpa using member
        exact same ▸ List.drop_suffix _ _
      · simp at member
  | any =>
      cases path with
      | nil => simp [leaves] at member
      | cons byte others =>
          have same : rest = others := by
            simp only [leaves] at member
            split at member
            · simpa using member
            · simp at member
          exact same ▸ List.suffix_cons byte others
  | zeroOrMore => exact suffix_of_mem_tailsWhile member
  | recursiveStart =>
      rcases List.mem_cons.mp member with same | later
      · exact same ▸ List.suffix_refl _
      · exact suffix_of_mem_afterSlashes later
  | recursiveEnd =>
      cases path with
      | nil => simp [leaves] at member
      | cons byte others =>
          simp only [leaves] at member
          split at member
          · exact (suffix_of_mem_tailsWhile member).trans
              (List.suffix_cons byte others)
          · simp at member
  | recursiveBetween =>
      cases path with
      | nil => simp [leaves] at member
      | cons byte others =>
          have further := List.suffix_cons byte others
          simp only [leaves] at member
          split at member
          · rcases List.mem_cons.mp member with same | later
            · exact same ▸ further
            · exact (suffix_of_mem_afterSlashes later).trans further
          · simp at member
  | charClass negated ranges =>
      cases path with
      | nil => simp [leaves] at member
      | cons byte others =>
          have same : rest = others := by
            simp only [leaves] at member
            split at member
            · simpa using member
            · simp at member
          exact same ▸ List.suffix_cons byte others
  | alternates branches => simp [leaves] at member

theorem Leaves.suffix {pattern : Pattern} {path rest : Bytes}
    (leaves : Leaves separator pattern path rest) : rest <:+ path := by
  induction leaves with
  | done path => exact List.suffix_refl path
  | item taken _ ih => exact ih.trans (Token.suffix_of_mem_leaves taken)
  | vacant _ _ ih => exact ih
  | branch _ _ _ _ takenIH laterIH => exact laterIH.trans takenIH

/-! ## The lists of remainders -/

/-- Of several end pieces of one path, one of each length is all of them. -/
theorem mem_distinct_iff {whole rest : Bytes} {paths : List Bytes}
    (ends : ∀ path ∈ paths, path <:+ whole) :
    rest ∈ distinct paths ↔ rest ∈ paths := by
  induction paths with
  | nil => simp [distinct]
  | cons path others ih =>
      have first := ends path List.mem_cons_self
      have later := ih fun other member =>
        ends other (List.mem_cons_of_mem path member)
      rw [distinct, List.mem_cons, List.mem_cons, List.mem_filter]
      constructor
      · rintro (here | ⟨member, _⟩)
        · exact Or.inl here
        · exact Or.inr (later.mp member)
      · rintro (here | member)
        · exact Or.inl here
        · by_cases sameLength : rest.length = path.length
          · have ending := ends rest (List.mem_cons_of_mem path member)
            have nested := List.suffix_of_suffix_length_le ending first
              (Nat.le_of_eq sameLength)
            exact Or.inl (nested.eq_of_length sameLength)
          · exact Or.inr ⟨later.mpr member, by simpa using sameLength⟩

theorem remaindersToken_of_ne_alternates {token : Token}
    (simple : ∀ branches, token ≠ .alternates branches)
    (paths : List Bytes) :
    remaindersToken separator token paths =
      distinct (paths.flatMap (token.leaves separator)) := by
  cases token with
  | alternates branches => exact absurd rfl (simple branches)
  | _ => rw [remaindersToken]; simp

theorem leaves_singleton_iff {token : Token}
    (simple : ∀ branches, token ≠ .alternates branches)
    {path rest : Bytes} :
    Leaves separator [token] path rest ↔
      rest ∈ token.leaves separator path := by
  constructor
  · intro leaves
    cases leaves with
    | item taken later =>
        cases later
        exact taken
    | vacant => exact absurd rfl (simple _)
    | branch => exact absurd rfl (simple _)
  · intro taken
    exact .item taken (.done rest)

theorem exists_of_not_vacantBranches {branches : List Pattern} :
    vacantBranches branches = false ↔
      ∃ branch ∈ branches, vacantPattern branch = false := by
  induction branches with
  | nil => simp [vacantBranches]
  | cons branch branches ih =>
      rw [vacantBranches, Bool.and_eq_false_iff, ih]
      simp

theorem leaves_alternates_iff {branches : List Pattern}
    {path rest : Bytes} :
    Leaves separator [.alternates branches] path rest ↔
      (vacantBranches branches = true ∧ rest = path) ∨
        ∃ branch ∈ branches, vacantPattern branch = false ∧
          Leaves separator branch path rest := by
  constructor
  · intro leaves
    cases leaves with
    | item taken _ => simp [Token.leaves] at taken
    | vacant isVacant later =>
        cases later
        exact Or.inl ⟨isVacant, rfl⟩
    | branch member notVacant taken later =>
        cases later
        exact Or.inr ⟨_, member, notVacant, taken⟩
  · rintro (⟨isVacant, rfl⟩ | ⟨branch, member, notVacant, taken⟩)
    · exact .vacant isVacant (.done rest)
    · exact .branch member notVacant taken (.done rest)

/-- A pattern takes what its first item takes, and then what the others
take. -/
theorem leaves_cons_iff {token : Token} {tokens : Pattern}
    {path rest : Bytes} :
    Leaves separator (token :: tokens) path rest ↔
      ∃ next, Leaves separator [token] path next ∧
        Leaves separator tokens next rest := by
  constructor
  · intro leaves
    cases leaves with
    | item taken later => exact ⟨_, .item taken (.done _), later⟩
    | vacant isVacant later => exact ⟨_, .vacant isVacant (.done _), later⟩
    | branch member notVacant taken later =>
        exact ⟨_, .branch member notVacant taken (.done _), later⟩
  · rintro ⟨next, first, later⟩
    cases first with
    | item taken done =>
        cases done
        exact .item taken later
    | vacant isVacant done =>
        cases done
        exact .vacant isVacant later
    | branch member notVacant taken done =>
        cases done
        exact .branch member notVacant taken later

mutual

theorem mem_remaindersToken_iff {whole rest : Bytes} (token : Token)
    {paths : List Bytes} (ends : ∀ path ∈ paths, path <:+ whole) :
    rest ∈ remaindersToken separator token paths ↔
      ∃ path ∈ paths, Leaves separator [token] path rest := by
  by_cases simple : ∀ branches, token ≠ .alternates branches
  · have left : ∀ next ∈ paths.flatMap (token.leaves separator),
        next <:+ whole := by
      intro next member
      obtain ⟨path, isPath, taken⟩ := List.mem_flatMap.mp member
      exact (Token.suffix_of_mem_leaves taken).trans (ends path isPath)
    rw [remaindersToken_of_ne_alternates simple, mem_distinct_iff left,
      List.mem_flatMap]
    simp only [leaves_singleton_iff simple]
  · cases token with
    | alternates branches =>
        rw [remaindersToken]
        simp only [leaves_alternates_iff]
        cases isVacant : vacantBranches branches with
        | true =>
            have noBranch : ¬∃ branch ∈ branches,
                vacantPattern branch = false := by
              rw [← exists_of_not_vacantBranches, isVacant]
              simp
            constructor
            · intro member
              exact ⟨rest, by simpa using member, Or.inl ⟨rfl, rfl⟩⟩
            · rintro ⟨path, isPath, ⟨_, rfl⟩ | ⟨branch, member, notVacant, _⟩⟩
              · simpa using isPath
              · exact absurd ⟨branch, member, notVacant⟩ noBranch
        | false =>
            have left : ∀ next ∈ remaindersBranches separator branches paths,
                next <:+ whole := by
              intro next member
              obtain ⟨path, isPath, branch, _, _, taken⟩ :=
                (mem_remaindersBranches_iff branches ends).mp member
              exact taken.suffix.trans (ends path isPath)
            simp only [Bool.false_eq_true, if_false, false_and, false_or]
            rw [mem_distinct_iff left,
              mem_remaindersBranches_iff branches ends]
    | _ => exact absurd (by simp) simple

theorem mem_remaindersBranches_iff {whole rest : Bytes}
    (branches : List Pattern) {paths : List Bytes}
    (ends : ∀ path ∈ paths, path <:+ whole) :
    rest ∈ remaindersBranches separator branches paths ↔
      ∃ path ∈ paths, ∃ branch ∈ branches,
        vacantPattern branch = false ∧ Leaves separator branch path rest := by
  cases branches with
  | nil => simp [remaindersBranches]
  | cons branch branches =>
      have here := @mem_remaindersPattern_iff whole rest branch paths ends
      have later := @mem_remaindersBranches_iff whole rest branches paths ends
      rw [remaindersBranches, List.mem_append, later]
      cases isVacant : vacantPattern branch with
      | true => simp [isVacant]
      | false =>
          simp only [Bool.false_eq_true, if_false, here]
          constructor
          · rintro (⟨path, isPath, taken⟩ | ⟨path, isPath, other, member, more⟩)
            · exact ⟨path, isPath, branch, List.mem_cons_self, isVacant, taken⟩
            · exact ⟨path, isPath, other, List.mem_cons_of_mem _ member, more⟩
          · rintro ⟨path, isPath, other, member, notVacant, taken⟩
            rcases List.mem_cons.mp member with rfl | member
            · exact Or.inl ⟨path, isPath, taken⟩
            · exact Or.inr ⟨path, isPath, other, member, notVacant, taken⟩

theorem mem_remaindersPattern_iff {whole rest : Bytes} (pattern : Pattern)
    {paths : List Bytes} (ends : ∀ path ∈ paths, path <:+ whole) :
    rest ∈ remaindersPattern separator pattern paths ↔
      ∃ path ∈ paths, Leaves separator pattern path rest := by
  cases pattern with
  | nil =>
      rw [remaindersPattern]
      constructor
      · intro member
        exact ⟨rest, member, .done rest⟩
      · rintro ⟨path, isPath, leaves⟩
        cases leaves
        exact isPath
  | cons token tokens =>
      have first : ∀ next, next ∈ remaindersToken separator token paths ↔
          ∃ path ∈ paths, Leaves separator [token] path next := by
        intro next
        exact mem_remaindersToken_iff token ends
      have nextEnds : ∀ next ∈ remaindersToken separator token paths,
          next <:+ whole := by
        intro next member
        obtain ⟨path, isPath, leaves⟩ := (first next).mp member
        exact leaves.suffix.trans (ends path isPath)
      rw [remaindersPattern, mem_remaindersPattern_iff tokens nextEnds]
      simp only [first, @leaves_cons_iff separator token tokens]
      constructor
      · rintro ⟨next, ⟨path, isPath, taken⟩, later⟩
        exact ⟨path, isPath, next, taken, later⟩
      · rintro ⟨path, isPath, next, taken, later⟩
        exact ⟨next, ⟨path, isPath, taken⟩, later⟩

end

/-! ## Matching -/

/-- Any pattern but `**` alone matches the paths of which it may leave
nothing. -/
theorem isMatch_iff {pattern : Pattern} {path : Bytes}
    (notEverything : pattern ≠ [.recursiveStart]) :
    isMatch separator pattern path = true ↔
      Leaves separator pattern path [] := by
  have ends : ∀ bytes ∈ [path], bytes <:+ path := by
    simp
  have matched : isMatch separator pattern path =
      (remaindersPattern separator pattern [path]).any List.isEmpty := by
    unfold isMatch
    split
    · exact absurd rfl notEverything
    · rfl
  rw [matched, List.any_eq_true]
  simp only [List.isEmpty_iff, exists_eq_right,
    mem_remaindersPattern_iff pattern ends, List.mem_singleton,
    exists_eq_left]

theorem mem_afterSlashes_append (front rest : Bytes) :
    rest ∈ afterSlashes (front ++ '/'.toUInt8 :: rest) := by
  induction front with
  | nil => simp [afterSlashes]
  | cons byte others ih =>
      rw [List.cons_append, afterSlashes]
      split
      · exact List.mem_cons_of_mem _ ih
      · exact ih

theorem afterSlashes_subset {whole path rest : Bytes}
    (ending : path <:+ whole) (member : rest ∈ afterSlashes path) :
    rest ∈ afterSlashes whole := by
  obtain ⟨front, rfl⟩ := ending
  induction front with
  | nil => exact member
  | cons byte others ih =>
      rw [List.cons_append, afterSlashes]
      split
      · exact List.mem_cons_of_mem _ ih
      · exact ih

/-- A pattern that begins with `**/` and matches a path matches also what ends
in a slash and that path. -/
theorem isMatch_of_recursiveStart {tokens : Pattern} {path : Bytes}
    (matched :
      isMatch separator (.recursiveStart :: tokens) path = true)
    (front : Bytes) :
    isMatch separator (.recursiveStart :: tokens)
      (front ++ '/'.toUInt8 :: path) = true := by
  by_cases everything : tokens = []
  · rw [everything]
    rfl
  have proper : (.recursiveStart :: tokens : Pattern) ≠
      [.recursiveStart] := by
    simpa using everything
  rw [isMatch_iff proper, leaves_cons_iff] at matched ⊢
  obtain ⟨next, first, later⟩ := matched
  refine ⟨next, ?_, later⟩
  rw [leaves_singleton_iff (by simp)] at first ⊢
  apply List.mem_cons_of_mem
  rcases List.mem_cons.mp first with here | below
  · rw [here]
    exact mem_afterSlashes_append _ _
  · apply afterSlashes_subset _ below
    exact ⟨front ++ ['/'.toUInt8], by simp⟩

end Glob

end AccessAudit
