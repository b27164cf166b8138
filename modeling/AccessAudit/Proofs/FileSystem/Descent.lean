import AccessAudit.Proofs.FileSystem.Frame
import AccessAudit.Proofs.FileSystem.Shorter
import AccessAudit.Proofs.Path.Representation

/-!
# Down from a root

A plain path consists of proper names.  Where no link is in the way, it leads
from a root straight down, and what is seen there is what the tree has at the
names below the root.
-/

namespace AccessAudit

namespace Path

/-- All segments of the path are proper names. -/
def Plain (path : Bytes) : Prop :=
  ∀ segment ∈ Text.pieces Path.slash path, ProperName segment

instance (path : Bytes) : Decidable (Plain path) :=
  inferInstanceAs (Decidable (∀ segment ∈ Text.pieces Path.slash path, _))

theorem Plain.relative {path : Bytes} (plain : Plain path) :
    isAbsolute path = false := by
  rw [Bool.eq_false_iff]
  intro absolute
  obtain ⟨second, rest, cut⟩ := isAbsolute_iff.mp absolute
  have first : ([] : Bytes) ∈ Text.pieces Path.slash path := by
    rw [cut]
    exact List.mem_cons_self
  exact (plain [] first).nonempty rfl

theorem Plain.ne_nil {path : Bytes} (plain : Plain path) : path ≠ [] := by
  rintro rfl
  exact (plain [] (by simp [Text.pieces])).nonempty rfl

theorem Plain.named {path : Bytes} (plain : Plain path) :
    (Text.pieces Path.slash path).all List.isEmpty = false := by
  obtain ⟨segment, rest, cut⟩ :=
    List.exists_cons_of_ne_nil (Text.pieces_ne_nil Path.slash path)
  have proper := plain segment (by simp [cut])
  simp [cut, proper.nonempty]

theorem eq_of_pieces_eq {path other : Bytes}
    (same : Text.pieces Path.slash path = Text.pieces Path.slash other) :
    path = other := by
  rw [← Text.joinWith_pieces Path.slash path, same, Text.joinWith_pieces]

end Path

/-- No link is met on the way down from a location. -/
def Node.ClearBelow (tree : Node) (location names : Location) : Prop :=
  ∀ front, front ≠ [] → front <+: names →
    ∀ target, tree.look (location ++ front) ≠ some (.link target)

theorem Node.ClearBelow.tail {tree : Node} {location rest : Location}
    {name : Bytes} (clear : tree.ClearBelow location (name :: rest)) :
    tree.ClearBelow (location ++ [name]) rest := by
  intro front _ start target
  rw [← List.append_cons]
  exact clear (name :: front) (List.cons_ne_nil name front)
    (List.cons_prefix_cons.mpr ⟨rfl, start⟩) target

namespace Workspace

/-- Names are followed down to a place, or to where there is nothing. -/
theorem follow_names {tree : Node} {location names : Location}
    (proper : ∀ name ∈ names, Path.ProperName name)
    (clear : tree.ClearBelow location names) :
    (∃ place, follow tree .use location names = .arrived place ∧
      place.location = location ++ names) ∨
    (∃ problem, follow tree .use location names = .failed problem ∧
      tree.look (location ++ names) = none) := by
  induction names generalizing location with
  | nil => exact Or.inl ⟨_, rfl, (List.append_nil location).symm⟩
  | cons name rest ih =>
      have first := proper name List.mem_cons_self
      have later := ih (fun other member =>
        proper other (List.mem_cons_of_mem name member)) clear.tail
      rw [← List.append_cons] at later
      rw [follow_cons]
      by_cases directory : tree.look location = some .directory
      · simp only [directory, if_true, first.notIdle, Bool.false_eq_true,
          if_false, first.notParent, asksForDirectory, reduceCtorEq,
          decide_false, Bool.false_and]
        cases seen : tree.look (location ++ [name]) with
        | none =>
            by_cases final : rest = []
            · subst final
              exact Or.inl ⟨_, rfl, rfl⟩
            · refine Or.inr ⟨.notFound, by simp [final], ?_⟩
              rw [List.append_cons]
              exact Node.look_append_eq_none (by simp [seen]) final
        | some found =>
            cases found with
            | link target =>
                exact absurd seen (clear [name] (by simp) (by simp) target)
            | file file => exact later
            | directory => exact later
      · refine Or.inr ⟨.notDirectory, by simp [directory], ?_⟩
        exact Node.look_append_eq_none directory (by simp)

/-- The place to which names lead, and what is there. -/
theorem look_of_followLinks_names {tree : Node} {location names : Location}
    (proper : ∀ name ∈ names, Path.ProperName name)
    (clear : tree.ClearBelow location names) (links : Nat) :
    ((followLinks tree .use links location names).toOption.map
      Place.location).bind tree.look = tree.look (location ++ names) := by
  rcases follow_names proper clear with
    ⟨place, arrives, same⟩ | ⟨problem, fails, nothing⟩
  · cases links with
    | zero => simp [followLinks, arrives, same, Except.toOption]
    | succ links => simp [followLinks, arrives, same, Except.toOption]
  · cases links with
    | zero => simp [followLinks, fails, nothing, Except.toOption]
    | succ links => simp [followLinks, fails, nothing, Except.toOption]

/-- The root of a source leads to a location.  The empty root stands for the
current directory. -/
inductive Leads (workspace : Workspace) : Bytes → Location → Prop
  | current : Leads workspace [] workspace.current
  | resolved {root : Bytes} {location : Location}
      (leads : workspace.resolve .use root = .ok (.occupied location)) :
      Leads workspace root location

variable {workspace : Workspace} {root path : Bytes} {location : Location}

theorem seenAt?_eq_resolve (workspace : Workspace) (path : Bytes) :
    workspace.seenAt? path =
      ((workspace.resolve .use path).toOption.map Place.location).bind
        workspace.tree.look := by
  rw [seenAt?, locate?]
  cases workspace.resolve .use path <;> rfl

/-- A plain path that is joined to a root is resolved from the location of
the root on. -/
theorem Leads.resolve_join (leads : workspace.Leads root location)
    (plain : Path.Plain path) :
    ∃ links, workspace.resolve .use (Path.join root path) =
      followLinks workspace.tree .use links location
        (Text.pieces Path.slash path) := by
  have resolve : ∀ whole : Bytes, whole ≠ [] →
      workspace.resolve .use whole =
        followLinks workspace.tree .use linkLimit (workspace.start whole)
          (Text.pieces Path.slash whole) := by
    intro whole nonempty
    rw [Workspace.resolve, if_neg (by simpa using nonempty)]
    rfl
  have sameStart : workspace.start (Path.join root path) =
      workspace.start root := by
    rw [start, start, Path.isAbsolute_join plain.relative]
  cases leads with
  | current =>
      have same : Path.join [] path = path := by
        simp [Path.join, plain.relative]
      have relative : workspace.start [] = workspace.current := rfl
      refine ⟨linkLimit, ?_⟩
      rw [resolve _ (same.symm ▸ plain.ne_nil), sameStart, same, relative]
  | resolved leads =>
      obtain ⟨nonempty, route⟩ := resolve_eq_ok_iff.mp leads
      rcases Path.join_of_relative root plain.relative with
        ⟨empty, _⟩ | ⟨front, isFront, same⟩ | ⟨_, same⟩
      · exact absurd empty nonempty
      · -- The slash at the end of the root adds an idle segment.
        have trailing : Text.pieces Path.slash root =
            Text.pieces Path.slash front ++ [[]] := by
          rw [isFront, Text.pieces_append_separator]
          rfl
        rw [trailing] at route
        have thins : Thins (Text.pieces Path.slash front ++ [[]])
            (Text.pieces Path.slash front ++ []) :=
          .prepend _ (.drop rfl .nil)
        rw [List.append_nil] at thins
        have shorter := route.thinned thins
        obtain ⟨links, goesOn⟩ := shorter.followLinks_append plain.named .use
        refine ⟨links, ?_⟩
        rw [resolve _ (by simp [same]), sameStart, same,
          Text.pieces_append_separator]
        exact goesOn
      · obtain ⟨links, goesOn⟩ := route.followLinks_append plain.named .use
        refine ⟨links, ?_⟩
        rw [resolve _ (by simp [same]), sameStart, same,
          Text.pieces_append_separator]
        exact goesOn

/-- A plain path shows what is at its names below the root. -/
theorem Leads.seenAt?_join (leads : workspace.Leads root location)
    (plain : Path.Plain path)
    (clear : workspace.tree.ClearBelow location (Text.pieces Path.slash path)) :
    workspace.seenAt? (Path.join root path) =
      workspace.tree.look (location ++ Text.pieces Path.slash path) := by
  obtain ⟨links, resolved⟩ := leads.resolve_join plain
  rw [seenAt?_eq_resolve, resolved]
  exact look_of_followLinks_names plain clear links

/-- A name that is joined to a root leads to the entry of that name, unless
it is a link. -/
theorem resolve_join_name {name : Bytes} {found : Surface}
    (resolved : workspace.resolve .use root = .ok (.occupied location))
    (proper : Path.ProperName name)
    (seen : workspace.tree.look (location ++ [name]) = some found)
    (notLink : ∀ target, found ≠ .link target) :
    workspace.resolve .use (Path.join root name) =
      .ok (.occupied (location ++ [name])) := by
  have pieces : Text.pieces Path.slash name = [name] :=
    Text.pieces_of_not_mem proper.noSlash
  have plain : Path.Plain name := by
    intro segment member
    rw [pieces, List.mem_singleton] at member
    rwa [member]
  obtain ⟨links, followed⟩ :=
    (Leads.resolved resolved).resolve_join plain
  have directory := Node.look_of_look_append seen (by simp)
  rw [followed, pieces, followLinks_eq_ok_iff]
  exact .arrive (.entry directory ⟨proper.notIdle, proper.notParent⟩ rfl seen
    notLink (.arrive _))

/-- The path of a file below a root leads to that file. -/
theorem seenAt?_foldl_join {names : Location} {found : StoredFile}
    (resolved : workspace.resolve .use root = .ok (.occupied location))
    (proper : ∀ name ∈ names, Path.ProperName name)
    (file : workspace.tree.look (location ++ names) = some (.file found)) :
    workspace.seenAt? (names.foldl Path.join root) = some (.file found) := by
  induction names generalizing root location with
  | nil =>
      rw [List.append_nil] at file
      rw [List.foldl_nil, seenAt?_eq_resolve, resolved]
      exact file
  | cons name rest ih =>
      have first := proper name List.mem_cons_self
      rw [List.append_cons] at file
      rw [List.foldl_cons]
      refine ih ?_ (fun other member =>
        proper other (List.mem_cons_of_mem name member)) file
      by_cases final : rest = []
      · subst rest
        rw [List.append_nil] at file
        exact resolve_join_name resolved first file (by simp)
      · have between := Node.look_of_look_append file final
        exact resolve_join_name resolved first between (by simp)

end Workspace

end AccessAudit
