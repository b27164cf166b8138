import AccessAudit.Category.OfPath
import AccessAudit.Proofs.Text.LowerCase

/-!
# Categories of files deeper in the tree

A row of a cascade is chosen for what the path holds, never for what it lacks,
and no marker reaches across the slash behind the root of a domain.  So a file
that moves deeper below that root comes to an earlier row or stays in its own.
-/

namespace AccessAudit

/-- The number of the row in the cascade that leads to a category, which is the
last one for files without a marker. -/
def BackendCategory.row : BackendCategory → Nat
  | .test => 1
  | .seedOrScript => 2
  | .schemaModel => 3
  | .config => 4
  | .controller => 5
  | .socketController => 5
  | .routes => 6
  | .service => 7
  | .middleware _ => 8
  | .other => 9

def FrontendCategory.row : FrontendCategory → Nat
  | .authPage => 1
  | .uiDemo => 2
  | .dataJson _ => 3
  | .router _ => 4
  | .modal => 5
  | .hook _ => 6
  | .apiService => 7
  | .featureModule => 8
  | .coreComponent _ => 9
  | .commonComponent => 10
  | .utils => 11
  | .types => 12
  | .context _ => 13
  | .config => 14
  | .other => 15

/-- The row of a classification; there is none outside the two domains. -/
def Classification.row : Classification → Nat
  | .backend category => category.row
  | .frontend category => category.row
  | .unknown => 0

namespace CascadeRow

variable {Category : Type} {rows : List (CascadeRow Category)}
  {lastResort : Category} {number : Category → Nat} {p q : LoweredPath}

/-- Whatever the path, the rows lead to categories with the numbers from
`start` on, and the last resort has the number behind them. -/
def NumberedFrom (number : Category → Nat) (lastResort : Category) :
    Nat → List (CascadeRow Category) → Prop
  | start, [] => number lastResort = start
  | start, row :: rows =>
      (∀ path, number (row.category path) = start) ∧
        NumberedFrom number lastResort (start + 1) rows

theorem first_cons (row : CascadeRow Category) (path : LoweredPath) :
    first (row :: rows) lastResort path =
      if row.holds path then row.category path
      else first rows lastResort path := by
  rw [first, List.find?_cons]
  cases row.holds path <;> rfl

theorem le_number_first {start : Nat}
    (numbered : NumberedFrom number lastResort start rows)
    (path : LoweredPath) : start ≤ number (first rows lastResort path) := by
  induction rows generalizing start with
  | nil => exact Nat.le_of_eq numbered.symm
  | cons row rest ih =>
      rw [first_cons]
      split
      · exact Nat.le_of_eq (numbered.1 path).symm
      · exact Nat.le_of_succ_le (ih numbered.2)

/-- If every row that holds for one path holds for another, the other comes to
no later row. -/
theorem number_first_le {start : Nat}
    (numbered : NumberedFrom number lastResort start rows)
    (keeps : ∀ row ∈ rows, row.holds p = true → row.holds q = true) :
    number (first rows lastResort q) ≤ number (first rows lastResort p) := by
  induction rows generalizing start with
  | nil => exact Nat.le_refl _
  | cons row rest ih =>
      have later := ih numbered.2 fun other member =>
        keeps other (List.mem_cons_of_mem row member)
      rw [first_cons, first_cons]
      by_cases atQ : row.holds q = true
      · rw [if_pos atQ, numbered.1]
        split
        · exact Nat.le_of_eq (numbered.1 p).symm
        · exact Nat.le_of_succ_le (le_number_first numbered.2 p)
      · have atP : ¬row.holds p = true := fun holds =>
          atQ (keeps row List.mem_cons_self holds)
        rwa [if_neg atQ, if_neg atP]

/-- A row asks for markers only. -/
theorem holds_of_markers {row : CascadeRow Category}
    (keeps : ∀ group ∈ row.evidence, ∀ marker ∈ group,
      marker <:+: p.whole → marker <:+: q.whole)
    (holds : row.holds p = true) : row.holds q = true := by
  rw [CascadeRow.holds, List.all_eq_true] at holds ⊢
  intro group member
  obtain ⟨marker, isMarker, found⟩ :=
    (Text.mentionsAny_iff _ _).mp (holds group member)
  exact (Text.mentionsAny_iff _ _).mpr
    ⟨marker, isMarker, keeps group member marker isMarker found⟩

end CascadeRow

theorem backendCascade_numbered :
    CascadeRow.NumberedFrom BackendCategory.row .other 1 backendCascade := by
  have controller : ∀ path, (controllerKind path).row = 5 := by
    intro path
    rw [controllerKind]
    split <;> rfl
  exact ⟨fun _ => rfl, fun _ => rfl, fun _ => rfl, fun _ => rfl, controller,
    fun _ => rfl, fun _ => rfl, fun _ => rfl, rfl⟩

theorem frontendCascade_numbered :
    CascadeRow.NumberedFrom FrontendCategory.row .other 1 frontendCascade :=
  ⟨fun _ => rfl, fun _ => rfl, fun _ => rfl, fun _ => rfl, fun _ => rfl,
    fun _ => rfl, fun _ => rfl, fun _ => rfl, fun _ => rfl, fun _ => rfl,
    fun _ => rfl, fun _ => rfl, fun _ => rfl, fun _ => rfl, rfl⟩

/-! ### Markers and the root of a domain -/

/-- Wherever the marker is laid on the root, the two part ways before the
slash behind the root or right there. -/
def Text.Apart (root marker : Text) : Prop :=
  ∀ position < root.length,
    ¬marker <+: root.drop position ++ ['/'] ∧
      ¬root.drop position ++ ['/'] <+: marker

instance (root marker : Text) : Decidable (Text.Apart root marker) :=
  inferInstanceAs (Decidable (∀ position < root.length, _ ∧ _))

/-- A marker that keeps apart from the root stands behind it. -/
theorem Text.Apart.behind {root marker rest : Text}
    (apart : Text.Apart root marker)
    (found : marker <:+: root ++ '/' :: rest) : marker <:+: '/' :: rest := by
  obtain ⟨before, after, cut⟩ := found
  rw [List.append_assoc] at cut
  rcases List.append_eq_append_iff.mp cut with
    ⟨start, isRoot, rest'⟩ | ⟨skipped, isBefore, rest'⟩
  · cases start with
    | nil => exact ⟨[], after, rest'⟩
    | cons c more =>
        -- The marker begins inside the root.
        have inside : before.length < root.length := by
          rw [isRoot, List.length_append, List.length_cons]
          omega
        have dropped : root.drop before.length = c :: more := by
          rw [isRoot, List.drop_left]
        have marked : marker <+: c :: more ++ '/' :: rest := ⟨after, rest'⟩
        have slashed : c :: more ++ ['/'] <+: c :: more ++ '/' :: rest :=
          ⟨rest, by simp⟩
        obtain ⟨notShort, notLong⟩ := apart before.length inside
        rw [dropped] at notShort notLong
        rcases List.prefix_or_prefix_of_prefix marked slashed with
          short | long
        · exact absurd short notShort
        · exact absurd long notLong
  · exact ⟨skipped, after, by rw [List.append_assoc, ← rest']⟩

theorem backendCascade_apart :
    ∀ row ∈ backendCascade, ∀ group ∈ row.evidence, ∀ marker ∈ group,
      Text.Apart "backend" marker := by
  decide +kernel

theorem frontendCascade_apart :
    ∀ row ∈ frontendCascade, ∀ group ∈ row.evidence, ∀ marker ∈ group,
      Text.Apart "react" marker := by
  decide +kernel

/-- A path that holds all that stands behind the root of the other comes to no
later row. -/
theorem CascadeRow.number_first_le_of_deeper {Category : Type}
    {rows : List (CascadeRow Category)} {lastResort : Category}
    {number : Category → Nat} {start : Nat} {root rest : Text}
    {p q : LoweredPath}
    (numbered : NumberedFrom number lastResort start rows)
    (apart : ∀ row ∈ rows, ∀ group ∈ row.evidence, ∀ marker ∈ group,
      Text.Apart root marker)
    (shallow : p.whole = root ++ '/' :: rest)
    (deep : '/' :: rest <:+: q.whole) :
    number (first rows lastResort q) ≤ number (first rows lastResort p) := by
  apply number_first_le numbered
  intro row isRow
  apply holds_of_markers
  intro group isGroup marker isMarker found
  rw [shallow] at found
  exact ((apart row isRow group isGroup marker isMarker).behind found).trans
    deep

theorem classify_of_backend {path : Text} (begins : "backend" <+: path) :
    classify path = .backend
      (CascadeRow.first backendCascade .other (LoweredPath.of path)) := by
  have isBackend : Text.startsWith path "backend" = true :=
    List.isPrefixOf_iff_prefix.mpr begins
  rw [classify, if_pos isBackend]

theorem classify_of_react {path : Text} (begins : "react" <+: path) :
    classify path = .frontend
      (CascadeRow.first frontendCascade .other (LoweredPath.of path)) := by
  have isReact : Text.startsWith path "react" = true :=
    List.isPrefixOf_iff_prefix.mpr begins
  have notBackend : ¬Text.startsWith path "backend" = true := by
    obtain ⟨rest, rfl⟩ := begins
    exact Bool.false_ne_true
  rw [classify, if_neg notBackend, if_pos isReact]

/-- A file that moves deeper below the root of its domain stays in the domain
and comes to no later row of the cascade, in particular if directories are
inserted right below the root. -/
theorem deeper_file_not_demoted {root : Text}
    (isRoot : root = "backend" ∨ root = "react") :
    (∀ p q rest : Text, root <+: p → root <+: q →
      Text.lowerCase p = root ++ '/' :: rest →
      '/' :: rest <:+: Text.lowerCase q →
        (classify p).domain ≠ .unknown ∧
          (classify q).domain = (classify p).domain ∧
          (classify q).row ≤ (classify p).row) ∧
    ∀ directories file : Text,
      (classify (root ++ '/' :: (directories ++ '/' :: file))).row ≤
        (classify (root ++ '/' :: file)).row := by
  have deeper : ∀ p q rest : Text, root <+: p → root <+: q →
      Text.lowerCase p = root ++ '/' :: rest →
      '/' :: rest <:+: Text.lowerCase q →
        (classify p).domain ≠ .unknown ∧
          (classify q).domain = (classify p).domain ∧
          (classify q).row ≤ (classify p).row := by
    intro p q rest pBegins qBegins shallow deep
    rcases isRoot with rfl | rfl
    · rw [classify_of_backend pBegins, classify_of_backend qBegins]
      exact ⟨nofun, rfl, CascadeRow.number_first_le_of_deeper
        backendCascade_numbered backendCascade_apart shallow deep⟩
    · rw [classify_of_react pBegins, classify_of_react qBegins]
      exact ⟨nofun, rfl, CascadeRow.number_first_le_of_deeper
        frontendCascade_numbered frontendCascade_apart shallow deep⟩
  refine ⟨deeper, ?_⟩
  intro directories file
  have lowered : Text.lowerCase root = root := by
    rcases isRoot with rfl | rfl <;> decide +kernel
  have shallow : Text.lowerCase (root ++ '/' :: file) =
      root ++ '/' :: Text.lowerCase file := by
    rw [Text.lowerCase_append_slash, lowered]
  have deep : '/' :: Text.lowerCase file <:+:
      Text.lowerCase (root ++ '/' :: (directories ++ '/' :: file)) := by
    rw [Text.lowerCase_append_slash, Text.lowerCase_append_slash]
    exact ⟨Text.lowerCase root ++ '/' :: Text.lowerCase directories, [],
      by simp⟩
  exact (deeper _ _ _ (List.prefix_append _ _) (List.prefix_append _ _)
    shallow deep).2.2

/-- A name that ends in a capital sigma, deeper below a directory in other
letters. -/
theorem deeper_file_not_demoted_of_greek_name :
    let p : Text := "backend/Routes/ΟΔΟΣ"
    let q : Text := "backendOld/Services/rOUTES/ΟΔΟΣ/index.js"
    ("backend" : Text) <+: p ∧ ("backend" : Text) <+: q ∧
      Text.lowerCase p = "backend" ++ '/' :: "routes/οδος" ∧
      '/' :: "routes/οδος" <:+: Text.lowerCase q ∧
      (classify q).row ≤ (classify p).row := by
  intro p q
  have isRoot : ("backend" : Text) = "backend" ∨
      ("backend" : Text) = "react" := .inl rfl
  have pBegins : ("backend" : Text) <+: p := by
    decide +kernel
  have qBegins : ("backend" : Text) <+: q := by
    decide +kernel
  have shallow : Text.lowerCase p = "backend" ++ '/' :: "routes/οδος" := by
    decide +kernel
  have lowered : Text.lowerCase q =
      "backendold/services" ++ '/' :: "routes/οδος" ++ "/index.js" := by
    decide +kernel
  have deep : '/' :: "routes/οδος" <:+: Text.lowerCase q :=
    ⟨_, _, lowered.symm⟩
  have deeper := (deeper_file_not_demoted isRoot).1 p q "routes/οδος" pBegins
    qBegins shallow deep
  exact ⟨pBegins, qBegins, shallow, deep, deeper.2.2⟩

end AccessAudit
