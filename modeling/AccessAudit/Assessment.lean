import AccessAudit.Category.OfPath
import AccessAudit.Rule.Decision

/-!
# Assessment of one file

The content behind a path is asked of a content source.  A file without
readable content is not found, whatever its path; all others are decided by
the rules, and the content is searched only for categories that consult it.
-/

namespace AccessAudit

/-- What a content source answers for a path. -/
inductive Content
  | text (content : Text)
  | missing
  | unreadable
deriving DecidableEq, Repr

/-- Supplies the content behind every path. -/
abbrev ContentSource := Text → Content

/-- A source that holds files in memory.  A path marked as unreadable fails
even if a file of that name is held. -/
def memorySource (files : List (Text × Text)) (unreadable : List Text) :
    ContentSource := fun path =>
  if unreadable.contains path then .unreadable
  else
    match files.lookup path with
    | some content => .text content
    | none => .missing

/-- Everything learned about one file.  The features are absent where no
content was searched. -/
structure Assessment where
  path : Text
  classification : Classification
  features : Option Features
  rule : Text
  verdict : Verdict
deriving DecidableEq, Repr

/-- Assess a normalized path against given content. -/
def assessContent (path : Text) (content : Content) : Assessment :=
  let classification := classify path
  match content with
  | .missing =>
      ⟨path, classification, none, "file-not-found", .fileNotFound⟩
  | .unreadable =>
      ⟨path, classification, none, "unreadable-file", .unreadable⟩
  | .text content =>
      let features :=
        if classification.consultsContent then
          some (Features.ofContent content)
        else
          none
      let decision := classification.decide (features.getD .absent)
      ⟨path, classification, features, decision.rule, decision.verdict⟩

/-- Assess a normalized path with the content that a source supplies. -/
def assess (source : ContentSource) (path : Text) : Assessment :=
  assessContent path (source path)

/-- What happened when the content of an explained file was requested. -/
inductive ContentState
  | read
  | missing
  | unreadable
deriving DecidableEq, Repr

def ContentState.key : ContentState → Text
  | .read => "read"
  | .missing => "missing"
  | .unreadable => "unreadable"

def Content.state : Content → ContentState
  | .text _ => .read
  | .missing => .missing
  | .unreadable => .unreadable

/-- An assessment with the trace that led to it.  The trace is empty where
there was no content or the domain is unknown. -/
structure Explanation where
  assessment : Assessment
  content : ContentState
  ruleChain : List TraceStep
deriving DecidableEq, Repr

/-- Explain the verdict on a path as written by a user. -/
def explain (source : ContentSource) (raw : Text) : Explanation :=
  let path := normalizePath raw
  let content := source path
  let assessment := assessContent path content
  let ruleChain :=
    match content with
    | .text _ =>
        assessment.classification.trace
          (assessment.features.getD .absent)
    | _ => []
  ⟨assessment, content.state, ruleChain⟩

end AccessAudit
