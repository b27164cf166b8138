import AccessAudit.Proofs.FileSystem.Change
import AccessAudit.Proofs.Path.Spelling

/-!
# Shorter spellings of a path

Leaving idle segments out of a path that leads somewhere does not change
where it leads, and names below a directory lead down to what is there.  So a
file found below a root is found again by the significant segments of the
root and the names below it.
-/

namespace AccessAudit

/-- The second list of segments is the first without some idle ones. -/
inductive Thins : List Bytes → List Bytes → Prop
  | nil : Thins [] []
  | keep (segment : Bytes) {segments thinner : List Bytes}
      (later : Thins segments thinner) :
      Thins (segment :: segments) (segment :: thinner)
  | drop {segment : Bytes} {segments thinner : List Bytes}
      (isIdle : Path.isIdle segment = true)
      (later : Thins segments thinner) : Thins (segment :: segments) thinner

namespace Thins

theorem prepend {segments thinner : List Bytes} (front : List Bytes)
    (thins : Thins segments thinner) :
    Thins (front ++ segments) (front ++ thinner) := by
  induction front with
  | nil => exact thins
  | cons segment _ ih => exact .keep segment ih

theorem filter (segments : List Bytes) :
    Thins segments (segments.filter fun segment => !Path.isIdle segment) := by
  induction segments with
  | nil => exact .nil
  | cons segment rest ih =>
      cases isIdle : Path.isIdle segment with
      | true => simpa [isIdle] using Thins.drop isIdle ih
      | false => simpa [isIdle] using Thins.keep segment ih

end Thins

/-- The same progress, with idle segments left out of what is still to be
followed. -/
inductive Progress.Thins : Progress → Progress → Prop
  | arrived (place : Place) : Progress.Thins (.arrived place) (.arrived place)
  | redirected (location : Location) {segments thinner : List Bytes}
      (later : AccessAudit.Thins segments thinner) :
      Progress.Thins (.redirected location segments)
        (.redirected location thinner)

theorem Walk.thinned {tree : Node} {location : Location}
    {segments : List Bytes} {progress : Progress}
    (walk : Walk tree .use location segments progress)
    {thinner : List Bytes} (thins : Thins segments thinner) :
    ∃ other, progress.Thins other ∧
      Walk tree .use location thinner other := by
  induction walk generalizing thinner with
  | arrive location =>
      cases thins with
      | nil => exact ⟨_, .arrived _, .arrive location⟩
  | idle directory isIdle _ ih =>
      cases thins with
      | keep _ later =>
          obtain ⟨other, same, walk⟩ := ih later
          exact ⟨other, same, .idle directory isIdle walk⟩
      | drop _ later => exact ih later
  | parent directory _ ih =>
      cases thins with
      | keep _ later =>
          obtain ⟨other, same, walk⟩ := ih later
          exact ⟨other, same, .parent directory walk⟩
      | drop isIdle _ => exact absurd isIdle (by decide)
  | entry directory plain _ seen notLink _ ih =>
      cases thins with
      | keep _ later =>
          obtain ⟨other, same, walk⟩ := ih later
          exact ⟨other, same, .entry directory plain rfl seen notLink walk⟩
      | drop isIdle _ => simp [plain.notIdle] at isIdle
  | vacant directory plain free =>
      cases thins with
      | keep _ later =>
          cases later
          exact ⟨_, .arrived _, .vacant directory plain free⟩
      | drop isIdle _ => simp [plain.notIdle] at isIdle
  | lastLink _ _ _ wanted => cases wanted
  | link directory plain _ seen _ =>
      cases thins with
      | keep _ later =>
          exact ⟨_, .redirected _ (later.prepend _),
            .link directory plain rfl seen (by simp)⟩
      | drop isIdle _ => simp [plain.notIdle] at isIdle

theorem Route.thinned {tree : Node} {links : Nat} {location : Location}
    {segments : List Bytes} {place : Place}
    (route : Route tree .use links location segments place)
    {thinner : List Bytes} (thins : Thins segments thinner) :
    Route tree .use links location thinner place := by
  induction route generalizing thinner with
  | arrive walk =>
      obtain ⟨_, same, walk⟩ := walk.thinned thins
      cases same
      exact .arrive walk
  | through walk _ ih =>
      obtain ⟨_, same, walk⟩ := walk.thinned thins
      cases same with
      | redirected _ later => exact .through walk (ih later)

/-- Whoever follows a segment stands in a directory. -/
theorem Walk.directory_of_cons {tree : Node} {purpose : Purpose}
    {location : Location} {segment : Bytes} {rest : List Bytes}
    {progress : Progress}
    (walk : Walk tree purpose location (segment :: rest) progress) :
    tree.look location = some .directory := by
  cases walk <;> assumption

theorem Route.prepend_idle {tree : Node} {purpose : Purpose} {links : Nat}
    {location : Location} {segment : Bytes} {segments : List Bytes}
    {place : Place}
    (route : Route tree purpose links location segments place)
    (directory : tree.look location = some .directory)
    (isIdle : Path.isIdle segment = true) :
    Route tree purpose links location (segment :: segments) place := by
  cases route with
  | arrive walk => exact .arrive (.idle directory isIdle walk)
  | through walk later =>
      exact .through (.idle directory isIdle walk) later

theorem Node.look_of_look_append {tree : Node} {location rest : Location}
    {found : Surface} (seen : tree.look (location ++ rest) = some found)
    (below : rest ≠ []) : tree.look location = some .directory := by
  apply Decidable.byContradiction
  intro notDirectory
  rw [look_append_eq_none notDirectory below] at seen
  cases seen

/-- Proper names lead down to the file that they name. -/
theorem Walk.down {tree : Node} {location names : Location}
    {found : StoredFile}
    (file : tree.look (location ++ names) = some (.file found))
    (proper : ∀ name ∈ names, Path.ProperName name) :
    Walk tree .use location names
      (.arrived (.occupied (location ++ names))) := by
  induction names generalizing location with
  | nil =>
      rw [List.append_nil]
      exact .arrive location
  | cons name rest ih =>
      have directory := Node.look_of_look_append file (by simp)
      have first := proper name List.mem_cons_self
      rw [List.append_cons] at file ⊢
      have later := ih file fun other member =>
        proper other (List.mem_cons_of_mem name member)
      by_cases final : rest = []
      · subst rest
        rw [List.append_nil] at file
        exact .entry directory ⟨first.notIdle, first.notParent⟩ rfl file
          (by simp) later
      · have between := Node.look_of_look_append file final
        exact .entry directory ⟨first.notIdle, first.notParent⟩ rfl between
          (by simp) later

theorem Route.directory_of_ne_nil {tree : Node} {purpose : Purpose}
    {links : Nat} {location : Location} {segments : List Bytes}
    {place : Place}
    (route : Route tree purpose links location segments place)
    (nonempty : segments ≠ []) : tree.look location = some .directory := by
  obtain ⟨segment, rest, rfl⟩ := List.exists_cons_of_ne_nil nonempty
  cases route with
  | arrive walk => exact walk.directory_of_cons
  | through walk _ => exact walk.directory_of_cons

/-- A route to a directory goes on to the files below it. -/
theorem Route.down {tree : Node} {links : Nat}
    {start location names : Location} {segments : List Bytes}
    {found : StoredFile}
    (route : Route tree .use links start segments (.occupied location))
    (file : tree.look (location ++ names) = some (.file found))
    (proper : ∀ name ∈ names, Path.ProperName name) :
    Route tree .use links start (segments ++ names)
      (.occupied (location ++ names)) := by
  by_cases none : names = []
  · rw [none, List.append_nil, List.append_nil]
    exact route
  · obtain ⟨name, rest, rfl⟩ := List.exists_cons_of_ne_nil none
    have notAllEmpty : (name :: rest).all List.isEmpty = false := by
      have nonempty := (proper name List.mem_cons_self).nonempty
      simp [nonempty]
    obtain ⟨remaining, goesOn⟩ := route.followLinks_append notAllEmpty .use
    rw [← followLinks_eq_ok_iff, goesOn, followLinks_eq_ok_iff]
    exact .arrive (.down file proper)

namespace Workspace

/-- A file below a relative root is found from the current directory by the
significant segments of the root and the names below it. -/
theorem resolve_significant {workspace : Workspace} {root : Bytes}
    {location : Location} {names : List Bytes} {found : StoredFile}
    (relative : Path.isAbsolute root = false)
    (resolved : workspace.resolve .use root = .ok (.occupied location))
    (proper : ∀ name ∈ names, Path.ProperName name)
    (file : workspace.tree.look (location ++ names) = some (.file found))
    (named : Path.significant root ++ names ≠ []) :
    workspace.resolve .use (Path.join [Path.dot]
        (Text.joinWith [Path.slash] (Path.significant root ++ names))) =
      .ok (.occupied (location ++ names)) := by
  have pieces : Text.pieces Path.slash (Path.join [Path.dot]
      (Text.joinWith [Path.slash] (Path.significant root ++ names))) =
        [Path.dot] :: (Path.significant root ++ names) := by
    apply Path.pieces_join_current named
    · intro segment member
      rcases List.mem_append.mp member with inRoot | isName
      · exact Path.not_mem_of_mem_significant inRoot
      · exact (proper segment isName).noSlash
    · intro segment member
      rcases List.mem_append.mp member with inRoot | isName
      · exact Path.notIdle_of_mem_significant inRoot
      · exact (proper segment isName).notIdle
  rw [resolve_eq_ok_iff] at resolved ⊢
  obtain ⟨_, route⟩ := resolved
  rw [start, relative] at route
  have directory :=
    route.directory_of_ne_nil (Text.pieces_ne_nil Path.slash root)
  have below := (route.thinned (.filter _)).down file proper
  generalize Path.join [Path.dot] (Text.joinWith [Path.slash]
    (Path.significant root ++ names)) = path at pieces ⊢
  have fromCurrent : workspace.start path = workspace.current := by
    have notAbsolute : Path.isAbsolute path = false := by
      rw [Bool.eq_false_iff, Ne, Path.isAbsolute_iff, pieces]
      simp
    rw [start, notAbsolute]
    rfl
  constructor
  · rintro rfl
    cases pieces
  · rw [fromCurrent, pieces]
    exact below.prepend_idle directory (by decide)

end Workspace

end AccessAudit
