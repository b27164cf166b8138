import AccessAudit.FileSystem.Resolve
import AccessAudit.Proofs.FileSystem.Surface

/-!
# Walks through a directory tree

`Walk` describes how a path is followed up to its end or up to the next link,
as far as that succeeds.  It asks the tree for surfaces only, so a walk is
kept by every change after which all that was there is still of its sort.
-/

namespace AccessAudit

/-- A segment that names an entry of a directory. -/
structure PlainSegment (segment : Bytes) : Prop where
  notIdle : Path.isIdle segment = false
  notParent : segment ≠ [Path.dot, Path.dot]

/-- Does what is left of a path ask for a directory where a file is to be
written? -/
def asksForDirectory (purpose : Purpose) (rest : List Bytes) : Bool :=
  purpose = .write && !rest.isEmpty && rest.all List.isEmpty

/-- Segments are followed from a location to their end or to a link. -/
inductive Walk (tree : Node) (purpose : Purpose) :
    Location → List Bytes → Progress → Prop
  | arrive (location : Location) :
      Walk tree purpose location [] (.arrived (.occupied location))
  | idle {location : Location} {segment : Bytes} {rest : List Bytes}
      {progress : Progress}
      (directory : tree.look location = some .directory)
      (isIdle : Path.isIdle segment = true)
      (later : Walk tree purpose location rest progress) :
      Walk tree purpose location (segment :: rest) progress
  | parent {location : Location} {rest : List Bytes} {progress : Progress}
      (directory : tree.look location = some .directory)
      (later : Walk tree purpose location.dropLast rest progress) :
      Walk tree purpose location ([Path.dot, Path.dot] :: rest) progress
  | entry {location : Location} {segment : Bytes} {rest : List Bytes}
      {progress : Progress} {found : Surface}
      (directory : tree.look location = some .directory)
      (plain : PlainSegment segment)
      (admitted : asksForDirectory purpose rest = false)
      (seen : tree.look (location ++ [segment]) = some found)
      (notLink : ∀ target, found ≠ .link target)
      (later : Walk tree purpose (location ++ [segment]) rest progress) :
      Walk tree purpose location (segment :: rest) progress
  | vacant {location : Location} {segment : Bytes}
      (directory : tree.look location = some .directory)
      (plain : PlainSegment segment)
      (free : tree.look (location ++ [segment]) = none) :
      Walk tree purpose location [segment]
        (.arrived (.vacant location segment))
  | lastLink {location : Location} {segment target : Bytes}
      (directory : tree.look location = some .directory)
      (plain : PlainSegment segment)
      (seen : tree.look (location ++ [segment]) = some (.link target))
      (entryWanted : purpose = .entry) :
      Walk tree purpose location [segment]
        (.arrived (.occupied (location ++ [segment])))
  | link {location : Location} {segment target : Bytes} {rest : List Bytes}
      (directory : tree.look location = some .directory)
      (plain : PlainSegment segment)
      (admitted : asksForDirectory purpose rest = false)
      (seen : tree.look (location ++ [segment]) = some (.link target))
      (through : ¬(rest = [] ∧ purpose = .entry)) :
      Walk tree purpose location (segment :: rest)
        (.redirected (if Path.isAbsolute target then [] else location)
          (Text.pieces Path.slash target ++ rest))

namespace Workspace

/-- One step of following a path asks for two surfaces only. -/
theorem follow_cons (tree : Node) (purpose : Purpose) (location : Location)
    (segment : Bytes) (rest : List Bytes) :
    follow tree purpose location (segment :: rest) =
      if tree.look location = some .directory then
        if Path.isIdle segment then follow tree purpose location rest
        else if segment = [Path.dot, Path.dot] then
          follow tree purpose location.dropLast rest
        else if asksForDirectory purpose rest then .failed .isDirectory
        else
          match tree.look (location ++ [segment]) with
          | none =>
              if rest.isEmpty then .arrived (.vacant location segment)
              else .failed .notFound
          | some (.link target) =>
              if rest.isEmpty && purpose = .entry then
                .arrived (.occupied (location ++ [segment]))
              else
                .redirected (if Path.isAbsolute target then [] else location)
                  (Text.pieces Path.slash target ++ rest)
          | some _ => follow tree purpose (location ++ [segment]) rest
      else .failed .notDirectory := by
  rw [follow]
  cases found : tree.get? location with
  | none => simp [Node.look, found]
  | some node =>
      cases node with
      | file file => simp [Node.look, found, Node.surface]
      | link target => simp [Node.look, found, Node.surface]
      | directory entries =>
          have directory : tree.look location = some .directory :=
            Node.look_eq_directory_iff.mpr ⟨entries, found⟩
          have below := Node.look_append_singleton found segment
          simp only [directory, below, if_pos]
          cases entries.lookup segment with
          | none => rfl
          | some child => cases child <;> rfl

theorem follow_of_walk {tree : Node} {purpose : Purpose}
    {location : Location} {segments : List Bytes} {progress : Progress}
    (walk : Walk tree purpose location segments progress) :
    follow tree purpose location segments = progress := by
  induction walk with
  | arrive => rfl
  | idle directory isIdle _ ih => simp [follow_cons, directory, isIdle, ih]
  | parent directory _ ih =>
      have notIdle : Path.isIdle [Path.dot, Path.dot] = false := by decide
      simp [follow_cons, directory, notIdle, ih]
  | @entry _ _ _ _ found directory plain admitted seen notLink _ ih =>
      cases found with
      | link target => exact absurd rfl (notLink target)
      | file file =>
          simp [follow_cons, directory, plain.notIdle, plain.notParent,
            admitted, seen, ih]
      | directory =>
          simp [follow_cons, directory, plain.notIdle, plain.notParent,
            admitted, seen, ih]
  | vacant directory plain free =>
      simp [follow_cons, directory, plain.notIdle, plain.notParent, free,
        asksForDirectory]
  | lastLink directory plain seen entryWanted =>
      simp [follow_cons, directory, plain.notIdle, plain.notParent, seen,
        entryWanted, asksForDirectory]
  | @link _ _ _ rest directory plain admitted seen through =>
      have goesOn : (rest.isEmpty && decide (purpose = .entry)) = false := by
        simpa using through
      simp only [follow_cons, directory, plain.notIdle, plain.notParent,
        admitted, seen, goesOn, if_pos, if_false, Bool.false_eq_true]

/-- Where following does not fail, it is a walk. -/
theorem walk_of_follow {tree : Node} {purpose : Purpose}
    {location : Location} {segments : List Bytes} {progress : Progress}
    (followed : follow tree purpose location segments = progress)
    (succeeds : ∀ problem, progress ≠ .failed problem) :
    Walk tree purpose location segments progress := by
  induction segments generalizing location with
  | nil =>
      rw [follow] at followed
      exact followed ▸ .arrive location
  | cons segment rest ih =>
      rw [follow_cons] at followed
      by_cases directory : tree.look location = some .directory
      case neg =>
        rw [if_neg directory] at followed
        exact absurd followed.symm (succeeds _)
      rw [if_pos directory] at followed
      cases notIdle : Path.isIdle segment with
      | true =>
          simp only [notIdle, if_pos] at followed
          exact .idle directory notIdle (ih followed)
      | false =>
          simp only [notIdle, Bool.false_eq_true, if_false] at followed
          by_cases isParent : segment = [Path.dot, Path.dot]
          case pos =>
            subst segment
            rw [if_pos rfl] at followed
            exact .parent directory (ih followed)
          rw [if_neg isParent] at followed
          have plain : PlainSegment segment := ⟨notIdle, isParent⟩
          cases admitted : asksForDirectory purpose rest with
          | true =>
              simp only [admitted, if_pos] at followed
              exact absurd followed.symm (succeeds _)
          | false =>
              simp only [admitted, Bool.false_eq_true, if_false]
                at followed
              cases seen : tree.look (location ++ [segment]) with
              | none =>
                  cases rest with
                  | nil =>
                      simp only [seen] at followed
                      exact followed ▸ .vacant directory plain seen
                  | cons next others =>
                      simp only [seen] at followed
                      exact absurd followed.symm (succeeds _)
              | some found =>
                  cases found with
                  | file file =>
                      simp only [seen] at followed
                      exact .entry directory plain admitted seen
                        (by simp) (ih followed)
                  | directory =>
                      simp only [seen] at followed
                      exact .entry directory plain admitted seen
                        (by simp) (ih followed)
                  | link target =>
                      simp only [seen] at followed
                      split at followed
                      · next final =>
                          simp only [Bool.and_eq_true, List.isEmpty_iff,
                            decide_eq_true_eq] at final
                          obtain ⟨rfl, wanted⟩ := final
                          exact followed ▸ .lastLink directory plain seen
                            wanted
                      · next through =>
                          simp only [Bool.and_eq_true, List.isEmpty_iff,
                            decide_eq_true_eq] at through
                          exact followed ▸ .link directory plain admitted
                            seen through

end Workspace

end AccessAudit
