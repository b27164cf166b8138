import AccessAudit.Proofs.Path.Representation
import AccessAudit.Proofs.Text.ByteOrder
import Mathlib.Data.List.Sort

/-!
# Listings of several scans

The paths of a manifest ascend strictly in the order of their bytes.  There is
one such list for every set of paths, so neither the order of the scanned
files nor repetitions among them show in a manifest, and the paths, which have
no idle segments, are listed again as they are.
-/

namespace AccessAudit

/-- The first text comes before the second in the order of bytes. -/
def ByteBefore (text other : Text) : Prop :=
  Utf8.encode text < Utf8.encode other

instance : Std.Irrefl ByteBefore :=
  ⟨fun text => List.lt_irrefl (Utf8.encode text)⟩

instance : Std.Antisymm ByteBefore :=
  ⟨fun _ _ before after => absurd after (List.lt_asymm before)⟩

/-- The texts ascend strictly in the order of their bytes. -/
def Ascending (texts : List Text) : Prop :=
  texts.Pairwise ByteBefore

/-- The path is made of segments between slashes, and each of them counts. -/
structure Path.InManifestForm (path : Text) : Prop where
  nonempty : path ≠ []
  segments : ∀ segment ∈ Text.pieces '/' path,
    segment ≠ [] ∧ segment ≠ ['.']
  noLeadingSlash : path.head? ≠ some '/'
  noTrailingSlash : path.getLast? ≠ some '/'

/-! ## Ascending lists -/

theorem pairwise_insertAscending {text : Text} {texts : List Text}
    (ascending : texts.Pairwise (· < ·)) :
    (insertAscending text texts).Pairwise (· < ·) := by
  induction texts with
  | nil => exact List.pairwise_singleton _ text
  | cons first rest ih =>
      obtain ⟨below, later⟩ := List.pairwise_cons.mp ascending
      rw [insertAscending]
      split
      · exact ascending
      · next different =>
          split
          · next less =>
              apply List.pairwise_cons.mpr
              refine ⟨?_, ascending⟩
              intro other member
              rcases List.mem_cons.mp member with rfl | inRest
              · exact less
              · exact List.lt_trans less (below other inRest)
          · next notLess =>
              have greater : first < text := by
                rcases List.le_iff_lt_or_eq.mp (List.not_lt.mp notLess)
                  with greater | same
                · exact greater
                · exact absurd same.symm different
              apply List.pairwise_cons.mpr
              refine ⟨?_, ih later⟩
              intro other member
              rcases mem_insertAscending.mp member with rfl | inRest
              · exact greater
              · exact below other inRest

theorem ascending_manifestPaths (base : Bytes) (files : List Bytes) :
    Ascending (manifestPaths base files) := by
  have sorted : ∀ paths : List Text,
      (paths.foldr insertAscending []).Pairwise (· < ·) := by
    intro paths
    induction paths with
    | nil => exact .nil
    | cons first rest ih => exact pairwise_insertAscending ih
  exact (sorted _).imp Utf8.encode_lt_encode

/-- An ascending list is told by its members. -/
theorem Ascending.eq_of_mem_iff {texts others : List Text}
    (ascending : Ascending texts) (otherAscending : Ascending others)
    (same : ∀ text, text ∈ texts ↔ text ∈ others) : texts = others :=
  List.Pairwise.eq_of_mem_iff ascending otherAscending same

namespace Path

theorem inManifestForm_of_segments {path : Text} (nonempty : path ≠ [])
    (segments : ∀ segment ∈ Text.pieces '/' path,
      segment ≠ [] ∧ segment ≠ ['.']) : InManifestForm path where
  nonempty := nonempty
  segments := segments
  noLeadingSlash := by
    intro leading
    obtain ⟨rest, rfl⟩ := List.head?_eq_some_iff.mp leading
    exact (segments [] (by simp [Text.pieces])).1 rfl
  noTrailingSlash := by
    intro trailing
    obtain ⟨front, rfl⟩ := List.getLast?_eq_some_iff.mp trailing
    have final : [] ∈ Text.pieces '/' (front ++ ['/']) := by
      rw [Text.pieces_append_separator]
      exact List.mem_append_right _ (by simp [Text.pieces])
    exact (segments [] final).1 rfl

/-- Each segment of a listed path counts. -/
theorem inManifestForm_toManifestFrom {base file : Bytes}
    (listed : toManifestFrom base file ≠ []) :
    InManifestForm (toManifestFrom base file) := by
  have inFile := (spelled_isSuffix base file).subset
  have pieces : Text.pieces '/' (toManifestFrom base file) =
      (spelled base file).map Utf8.decodeLossy := by
    rw [toManifestFrom_eq_shown]
    exact pieces_shown (toManifestFrom_ne_nil_iff.mp listed)
      fun segment member => not_mem_of_mem_significant (inFile member)
  apply inManifestForm_of_segments listed
  intro segment member
  rw [pieces] at member
  obtain ⟨original, isOriginal, rfl⟩ := List.mem_map.mp member
  have counts := notIdle_of_mem_significant (inFile isOriginal)
  rw [← isIdle_respelled, respelled, Bool.eq_false_iff, Ne,
    isIdle_encode_iff, not_or] at counts
  exact counts

/-- A path in manifest form is listed as it is. -/
theorem InManifestForm.toManifestFrom_eq_self {path : Text}
    (form : InManifestForm path) : toManifestFrom [dot] path = path := by
  have all : significant path =
      (Text.pieces '/' path).map Utf8.encode := by
    rw [significant, pieces_encode, List.filter_eq_self]
    intro encoded member
    obtain ⟨segment, isSegment, rfl⟩ := List.mem_map.mp member
    rw [Bool.not_eq_true', Bool.eq_false_iff, Ne, isIdle_encode_iff, not_or]
    exact form.segments segment isSegment
  rw [toManifestFrom_current, all, shown, List.map_map]
  have same : Utf8.decodeLossy ∘ Utf8.encode = id := by
    funext text
    exact Utf8.decodeLossy_encode text
  rw [same, List.map_id]
  exact Text.joinWith_pieces '/' path

end Path

theorem inManifestForm_of_mem_manifestPaths {base : Bytes} {path : Text}
    {files : List Bytes} (listed : path ∈ manifestPaths base files) :
    Path.InManifestForm path := by
  obtain ⟨nonempty, file, _, rfl⟩ := mem_manifestPaths.mp listed
  exact Path.inManifestForm_toManifestFrom nonempty

theorem manifestPaths_congr {base : Bytes} {files others : List Bytes}
    (same : ∀ file, file ∈ files ↔ file ∈ others) :
    manifestPaths base files = manifestPaths base others := by
  apply (ascending_manifestPaths base files).eq_of_mem_iff
    (ascending_manifestPaths base others)
  intro path
  simp only [mem_manifestPaths, same]

theorem mem_manifestPaths_append {base : Bytes} {path : Text}
    {files others : List Bytes} :
    path ∈ manifestPaths base (files ++ others) ↔
      path ∈ manifestPaths base files ∨ path ∈ manifestPaths base others := by
  simp only [mem_manifestPaths, List.mem_append, or_and_right, exists_or,
    and_or_left]

theorem manifestPaths_manifestPaths (base : Bytes) (files : List Bytes) :
    manifestPaths [Path.dot] ((manifestPaths base files).map Utf8.encode) =
      manifestPaths base files := by
  apply (ascending_manifestPaths _ _).eq_of_mem_iff
    (ascending_manifestPaths base files)
  intro path
  have again : ∀ {listed}, listed ∈ manifestPaths base files →
      Path.toManifestFrom [Path.dot] listed = listed := fun isListed =>
    (inManifestForm_of_mem_manifestPaths isListed).toManifestFrom_eq_self
  rw [mem_manifestPaths]
  constructor
  · rintro ⟨_, _, isFile, rfl⟩
    obtain ⟨listed, isListed, rfl⟩ := List.mem_map.mp isFile
    rw [again isListed]
    exact isListed
  · intro isListed
    exact ⟨(inManifestForm_of_mem_manifestPaths isListed).nonempty, path,
      List.mem_map_of_mem isListed, again isListed⟩

/-- The listing of two lists of files is the one ascending list of the paths
of both.  It holds what the files are called in manifests, whatever their
order and however often they are scanned; its paths are in manifest form, and
listing them from the current directory changes nothing. -/
theorem manifestPaths_merge (base : Bytes) (files : List Bytes) :
    (∀ path, path ∈ manifestPaths base files ↔
      path ≠ [] ∧ ∃ file ∈ files, Path.toManifestFrom base file = path) ∧
    (∀ others paths, paths = manifestPaths base (files ++ others) ↔
      Ascending paths ∧ ∀ path, path ∈ paths ↔
        path ∈ manifestPaths base files ∨
          path ∈ manifestPaths base others) ∧
    (∀ others, (∀ file, file ∈ others ↔ file ∈ files) →
      manifestPaths base others = manifestPaths base files) ∧
    (∀ path ∈ manifestPaths base files, Path.InManifestForm path) ∧
    manifestPaths [Path.dot] ((manifestPaths base files).map Utf8.encode) =
      manifestPaths base files := by
  refine ⟨fun _ => mem_manifestPaths, ?_, fun _ => manifestPaths_congr,
    fun _ => inManifestForm_of_mem_manifestPaths,
    manifestPaths_manifestPaths base files⟩
  intro others paths
  have ascending := ascending_manifestPaths base (files ++ others)
  constructor
  · rintro rfl
    exact ⟨ascending, fun _ => mem_manifestPaths_append⟩
  · rintro ⟨pathsAscending, members⟩
    apply pathsAscending.eq_of_mem_iff ascending
    intro path
    rw [members, mem_manifestPaths_append]

end AccessAudit
