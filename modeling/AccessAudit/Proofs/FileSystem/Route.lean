import AccessAudit.Proofs.FileSystem.Walk

/-!
# Routes through links

A route is a sequence of walks from link to link that ends at a place.  Routes
are what resolving a path finds.  They are kept while the tree grows, and a
route to a free name becomes a route to what is put there.
-/

namespace AccessAudit

/-- Two files of any contents may be read alike and written alike. -/
structure StoredFile.SamePermissions (file other : StoredFile) : Prop where
  isReadable : other.isReadable = file.isReadable
  isWritable : other.isWritable = file.isWritable

/-- A file stays a file of the same permissions, perhaps with another content;
links and directories stay what they are. -/
inductive Surface.SameSort : Surface → Surface → Prop
  | file {old new : StoredFile} (permissions : old.SamePermissions new) :
      SameSort (.file old) (.file new)
  | link (target : Bytes) : SameSort (.link target) (.link target)
  | directory : SameSort .directory .directory

/-- All that is in the first tree is in the second and of the same sort. -/
def Node.Persists (before after : Node) : Prop :=
  ∀ location found, before.look location = some found →
    ∃ now, after.look location = some now ∧ found.SameSort now

/-- The location that a place has or gets. -/
def Place.location : Place → Location
  | .occupied location => location
  | .vacant directory name => directory ++ [name]

/-- Where following ends once something is put at the free name. -/
def Progress.filled : Progress → Progress
  | .arrived place => .arrived (.occupied place.location)
  | progress => progress

/-- Walks from link to link, through at most `links` links, to a place. -/
inductive Route (tree : Node) (purpose : Purpose) :
    (links : Nat) → Location → List Bytes → Place → Prop
  | arrive {links : Nat} {location : Location} {segments : List Bytes}
      {place : Place}
      (walk : Walk tree purpose location segments (.arrived place)) :
      Route tree purpose links location segments place
  | through {links : Nat} {location next : Location}
      {segments rest : List Bytes} {place : Place}
      (walk : Walk tree purpose location segments (.redirected next rest))
      (later : Route tree purpose links next rest place) :
      Route tree purpose (links + 1) location segments place

/-- Resolving succeeds exactly along routes. -/
theorem followLinks_eq_ok_iff {tree : Node} {purpose : Purpose}
    {links : Nat} {location : Location} {segments : List Bytes}
    {place : Place} :
    Workspace.followLinks tree purpose links location segments = .ok place ↔
      Route tree purpose links location segments place := by
  constructor
  · intro found
    induction links generalizing location segments with
    | zero =>
        rw [Workspace.followLinks] at found
        split at found
        · next arrival followed =>
            cases found
            exact .arrive (Workspace.walk_of_follow followed (by simp))
        · cases found
        · cases found
    | succ links ih =>
        rw [Workspace.followLinks] at found
        split at found
        · next arrival followed =>
            cases found
            exact .arrive (Workspace.walk_of_follow followed (by simp))
        · cases found
        · next next rest followed =>
            exact .through (Workspace.walk_of_follow followed (by simp))
              (ih found)
  · intro route
    induction route with
    | @arrive links _ _ _ walk =>
        cases links <;>
          simp [Workspace.followLinks, Workspace.follow_of_walk walk]
    | through walk _ ih =>
        simp [Workspace.followLinks, Workspace.follow_of_walk walk, ih]

namespace Surface.SameSort

theorem refl (surface : Surface) : surface.SameSort surface := by
  cases surface with
  | file file => exact .file ⟨rfl, rfl⟩
  | link target => exact .link target
  | directory => exact .directory

theorem trans {first second third : Surface}
    (left : first.SameSort second) (right : second.SameSort third) :
    first.SameSort third := by
  cases left with
  | file permissions =>
      cases right with
      | file later =>
          exact .file ⟨later.isReadable.trans permissions.isReadable,
            later.isWritable.trans permissions.isWritable⟩
  | link target => exact right
  | directory => exact right

theorem ne_link {old new : Surface} (same : old.SameSort new)
    (notLink : ∀ target, old ≠ .link target) :
    ∀ target, new ≠ .link target := by
  cases same with
  | file => simp
  | link target => exact absurd rfl (notLink target)
  | directory => simp

end Surface.SameSort

namespace Node.Persists

variable {before after : Node}

theorem refl (tree : Node) : tree.Persists tree := fun _ found seen =>
  ⟨found, seen, .refl found⟩

theorem trans {middle : Node} (left : before.Persists middle)
    (right : middle.Persists after) : before.Persists after := by
  intro location found seen
  obtain ⟨between, seenBetween, first⟩ := left location found seen
  obtain ⟨now, seenNow, second⟩ := right location between seenBetween
  exact ⟨now, seenNow, first.trans second⟩

theorem file (persists : before.Persists after) {location : Location}
    {old : StoredFile} (seen : before.look location = some (.file old)) :
    ∃ new, after.look location = some (.file new) ∧
      old.SamePermissions new := by
  obtain ⟨now, seenNow, same⟩ := persists location _ seen
  cases same with
  | file permissions => exact ⟨_, seenNow, permissions⟩

theorem directory (persists : before.Persists after) {location : Location}
    (seen : before.look location = some .directory) :
    after.look location = some .directory := by
  obtain ⟨now, seenNow, same⟩ := persists location _ seen
  cases same
  exact seenNow

theorem link (persists : before.Persists after) {location : Location}
    {target : Bytes} (seen : before.look location = some (.link target)) :
    after.look location = some (.link target) := by
  obtain ⟨now, seenNow, same⟩ := persists location _ seen
  cases same
  exact seenNow

end Node.Persists

/-- If a place is a free name, then what the tree has there is no link. -/
def Node.Fills (after : Node) (place : Place) : Prop :=
  ∀ directory name, place = .vacant directory name →
    ∃ found, after.look (directory ++ [name]) = some found ∧
      ∀ target, found ≠ .link target

/-- A walk is kept while the tree grows; one that ends at a free name leads
to what is put there. -/
theorem Walk.filled {before after : Node} {purpose : Purpose}
    {location : Location} {segments : List Bytes} {progress : Progress}
    (walk : Walk before purpose location segments progress)
    (persists : before.Persists after)
    (fills : ∀ place, progress = .arrived place → after.Fills place) :
    Walk after purpose location segments progress.filled := by
  induction walk with
  | arrive location => exact .arrive location
  | idle directory isIdle _ ih =>
      exact .idle (persists.directory directory) isIdle (ih fills)
  | parent directory _ ih =>
      exact .parent (persists.directory directory) (ih fills)
  | entry directory plain admitted seen notLink _ ih =>
      obtain ⟨now, seenNow, same⟩ := persists _ _ seen
      exact .entry (persists.directory directory) plain admitted seenNow
        (same.ne_link notLink) (ih fills)
  | vacant directory plain free =>
      obtain ⟨found, seen, notLink⟩ := fills _ rfl _ _ rfl
      exact .entry (persists.directory directory) plain
        (by simp [asksForDirectory]) seen notLink (.arrive _)
  | lastLink directory plain seen wanted =>
      exact .lastLink (persists.directory directory) plain
        (persists.link seen) wanted
  | link directory plain admitted seen through =>
      exact .link (persists.directory directory) plain admitted
        (persists.link seen) through

theorem Route.filled {before after : Node} {purpose : Purpose} {links : Nat}
    {location : Location} {segments : List Bytes} {place : Place}
    (route : Route before purpose links location segments place)
    (persists : before.Persists after) (fills : after.Fills place) :
    Route after purpose links location segments
      (.occupied place.location) := by
  induction route with
  | arrive walk =>
      apply Route.arrive
      exact walk.filled persists fun _ same => by
        cases same
        exact fills
  | through walk _ ih =>
      exact .through (walk.filled persists (by simp)) (ih fills)

/-- A place that is free is a name in a directory. -/
def Node.Offers (tree : Node) : Place → Prop
  | .occupied _ => True
  | .vacant above name =>
      tree.look above = some .directory ∧
        tree.look (above ++ [name]) = none

theorem Walk.offers {tree : Node} {purpose : Purpose} {location : Location}
    {segments : List Bytes} {progress : Progress}
    (walk : Walk tree purpose location segments progress)
    {place : Place} (arrived : progress = .arrived place) :
    tree.Offers place := by
  induction walk with
  | arrive | lastLink =>
      cases arrived
      trivial
  | idle _ _ _ ih | parent _ _ ih | entry _ _ _ _ _ _ ih =>
      exact ih arrived
  | vacant directory _ free =>
      cases arrived
      exact ⟨directory, free⟩
  | link => cases arrived

theorem Route.offers {tree : Node} {purpose : Purpose} {links : Nat}
    {location : Location} {segments : List Bytes} {place : Place}
    (route : Route tree purpose links location segments place) :
    tree.Offers place := by
  induction route with
  | arrive walk => exact walk.offers rfl
  | through _ _ ih => exact ih

/-! ## Routes for different purposes -/

/-- A walk that does not stop at a link serves to use what it leads to. -/
theorem Walk.toUse {tree : Node} {purpose : Purpose} {location : Location}
    {segments : List Bytes} {progress : Progress}
    (walk : Walk tree purpose location segments progress)
    (notLink : purpose = .entry → ∀ found,
      progress = .arrived (.occupied found) →
        ∀ target, tree.look found ≠ some (.link target)) :
    Walk tree .use location segments progress := by
  induction walk with
  | arrive location => exact .arrive location
  | idle directory isIdle _ ih =>
      exact .idle directory isIdle (ih notLink)
  | parent directory _ ih => exact .parent directory (ih notLink)
  | entry directory plain _ seen goesOn _ ih =>
      exact .entry directory plain rfl seen goesOn (ih notLink)
  | vacant directory plain free => exact .vacant directory plain free
  | lastLink _ _ seen wanted => exact absurd seen (notLink wanted _ rfl _)
  | link directory plain _ seen _ =>
      exact .link directory plain rfl seen (by simp)

theorem Route.toUse {tree : Node} {purpose : Purpose} {links : Nat}
    {location : Location} {segments : List Bytes} {place : Place}
    (route : Route tree purpose links location segments place)
    (notLink : purpose = .entry → ∀ found, place = .occupied found →
      ∀ target, tree.look found ≠ some (.link target)) :
    Route tree .use links location segments place := by
  induction route with
  | arrive walk =>
      refine .arrive (walk.toUse ?_)
      intro entry found same
      cases same
      exact notLink entry found rfl
  | through walk _ ih =>
      exact .through (walk.toUse (by simp)) (ih notLink)

/-- A walk to use something is also a walk to its entry, unless a last link
stops it. -/
theorem Walk.toEntry {tree : Node} {location : Location}
    {segments : List Bytes} {progress : Progress}
    (walk : Walk tree .use location segments progress) :
    Walk tree .entry location segments progress ∨
      ∃ place, Walk tree .entry location segments (.arrived place) := by
  induction walk with
  | arrive location => exact Or.inl (.arrive location)
  | idle directory isIdle _ ih =>
      rcases ih with later | ⟨place, later⟩
      · exact Or.inl (.idle directory isIdle later)
      · exact Or.inr ⟨place, .idle directory isIdle later⟩
  | parent directory _ ih =>
      rcases ih with later | ⟨place, later⟩
      · exact Or.inl (.parent directory later)
      · exact Or.inr ⟨place, .parent directory later⟩
  | entry directory plain _ seen notLink _ ih =>
      rcases ih with later | ⟨place, later⟩
      · exact Or.inl (.entry directory plain rfl seen notLink later)
      · exact Or.inr ⟨place, .entry directory plain rfl seen notLink later⟩
  | vacant directory plain free =>
      exact Or.inl (.vacant directory plain free)
  | @lastLink _ _ _ directory plain seen wanted => cases wanted
  | @link _ _ _ rest directory plain _ seen _ =>
      by_cases final : rest = []
      · subst rest
        exact Or.inr ⟨_, .lastLink directory plain seen rfl⟩
      · exact Or.inl (.link directory plain rfl seen (by simp [final]))

theorem Route.toEntry {tree : Node} {links : Nat} {location : Location}
    {segments : List Bytes} {place : Place}
    (route : Route tree .use links location segments place) :
    ∃ reached, Route tree .entry links location segments reached := by
  induction route with
  | arrive walk =>
      rcases walk.toEntry with same | ⟨reached, other⟩
      · exact ⟨_, .arrive same⟩
      · exact ⟨reached, .arrive other⟩
  | through walk _ ih =>
      rcases walk.toEntry with same | ⟨reached, other⟩
      · obtain ⟨reached, later⟩ := ih
        exact ⟨reached, .through same later⟩
      · exact ⟨reached, .arrive other⟩

/-! ## Routes through a directory -/

/-- How following goes on with further segments. -/
def Progress.continueWith (tree : Node) (purpose : Purpose)
    (rest : List Bytes) : Progress → Progress
  | .arrived (.occupied location) =>
      Workspace.follow tree purpose location rest
  | .arrived (.vacant _ _) => .failed .notFound
  | .failed problem => .failed problem
  | .redirected location segments => .redirected location (segments ++ rest)

theorem asksForDirectory_append {purpose : Purpose} {rest : List Bytes}
    (named : rest.all List.isEmpty = false) (segments : List Bytes) :
    asksForDirectory purpose (segments ++ rest) = false := by
  simp only [asksForDirectory, List.all_append, named, Bool.and_false]

/-- A path is followed by following its beginning and going on from there. -/
theorem Walk.follow_append {tree : Node} {location : Location}
    {segments : List Bytes} {progress : Progress}
    (walk : Walk tree .use location segments progress)
    {rest : List Bytes} (named : rest.all List.isEmpty = false)
    (purpose : Purpose) :
    Workspace.follow tree purpose location (segments ++ rest) =
      progress.continueWith tree purpose rest := by
  have isMore : ∀ segments : List Bytes,
      (segments ++ rest).isEmpty = false := by
    intro segments
    cases rest with
    | nil => simp at named
    | cons => simp
  induction walk with
  | arrive => rfl
  | idle directory isIdle _ ih =>
      simp [Workspace.follow_cons, directory, isIdle, ih]
  | parent directory _ ih =>
      have notIdle : Path.isIdle [Path.dot, Path.dot] = false := by decide
      simp [Workspace.follow_cons, directory, notIdle, ih]
  | @entry _ _ others _ found directory plain _ seen notLink _ ih =>
      have admitted := @asksForDirectory_append purpose rest named others
      rw [List.cons_append, Workspace.follow_cons, if_pos directory]
      cases found with
      | link target => exact absurd rfl (notLink target)
      | file file =>
          simp [plain.notIdle, plain.notParent, admitted, seen, ih]
      | directory =>
          simp [plain.notIdle, plain.notParent, admitted, seen, ih]
  | vacant directory plain free =>
      have admitted := @asksForDirectory_append purpose rest named []
      have more := isMore []
      rw [List.nil_append] at admitted more
      simp [Workspace.follow_cons, directory, plain.notIdle,
        plain.notParent, admitted, free, more, Progress.continueWith]
  | lastLink _ _ _ wanted => cases wanted
  | @link _ _ _ others directory plain _ seen _ =>
      have admitted := @asksForDirectory_append purpose rest named others
      have more := isMore others
      simp only [List.cons_append, Workspace.follow_cons, directory,
        plain.notIdle, plain.notParent, admitted, seen, more, if_pos,
        Bool.false_eq_true, if_false, Bool.false_and,
        Progress.continueWith, List.append_assoc]

theorem followLinks_congr {tree : Node} {purpose : Purpose}
    {location other : Location} {segments others : List Bytes}
    (same : Workspace.follow tree purpose location segments =
      Workspace.follow tree purpose other others) (links : Nat) :
    Workspace.followLinks tree purpose links location segments =
      Workspace.followLinks tree purpose links other others := by
  cases links <;> rw [Workspace.followLinks, Workspace.followLinks, same]

/-- A path that begins with a route to a directory is resolved from that
directory on. -/
theorem Route.followLinks_append {tree : Node} {links : Nat}
    {location reached : Location} {segments : List Bytes}
    (route : Route tree .use links location segments (.occupied reached))
    {rest : List Bytes} (named : rest.all List.isEmpty = false)
    (purpose : Purpose) :
    ∃ remaining,
      Workspace.followLinks tree purpose links location (segments ++ rest) =
        Workspace.followLinks tree purpose remaining reached rest := by
  generalize isPlace : Place.occupied reached = place at route
  induction route with
  | @arrive links _ _ _ walk =>
      subst isPlace
      exact ⟨links, followLinks_congr (walk.follow_append named purpose) links⟩
  | through walk _ ih =>
      obtain ⟨remaining, later⟩ := ih isPlace
      refine ⟨remaining, ?_⟩
      rw [Workspace.followLinks, walk.follow_append named purpose]
      exact later

/-- A directory in which there is nothing. -/
structure Node.EmptyAt (tree : Node) (location : Location) : Prop where
  directory : tree.look location = some .directory
  free : ∀ name, tree.look (location ++ [name]) = none

/-- In an empty directory a path without parent segments can only lead to a
free name, if it has a name at all. -/
theorem Walk.vacant_of_emptyAt {tree : Node} {purpose : Purpose}
    {location : Location} {segments : List Bytes} {progress : Progress}
    (walk : Walk tree purpose location segments progress)
    (empty : tree.EmptyAt location)
    (noParent : [Path.dot, Path.dot] ∉ segments)
    (named : ∃ segment ∈ segments, Path.isIdle segment = false) :
    ∃ name, progress = .arrived (.vacant location name) := by
  induction walk with
  | arrive => simp at named
  | idle _ isIdle _ ih =>
      obtain ⟨segment, member, notIdle⟩ := named
      rcases List.mem_cons.mp member with here | later
      · rw [here, isIdle] at notIdle
        cases notIdle
      · exact ih empty (fun inRest => noParent (List.mem_cons_of_mem _ inRest))
          ⟨segment, later, notIdle⟩
  | parent => exact absurd List.mem_cons_self noParent
  | entry _ _ _ seen => simp [empty.free] at seen
  | vacant => exact ⟨_, rfl⟩
  | lastLink _ _ seen => simp [empty.free] at seen
  | link _ _ _ seen => simp [empty.free] at seen

theorem Route.vacant_of_emptyAt {tree : Node} {purpose : Purpose}
    {links : Nat} {location : Location} {segments : List Bytes}
    {place : Place}
    (route : Route tree purpose links location segments place)
    (empty : tree.EmptyAt location)
    (noParent : [Path.dot, Path.dot] ∉ segments)
    (named : ∃ segment ∈ segments, Path.isIdle segment = false) :
    ∃ name, place = .vacant location name := by
  cases route with
  | arrive walk =>
      obtain ⟨name, same⟩ := walk.vacant_of_emptyAt empty noParent named
      cases same
      exact ⟨name, rfl⟩
  | through walk _ =>
      obtain ⟨name, same⟩ := walk.vacant_of_emptyAt empty noParent named
      cases same

end AccessAudit
