import AccessAudit.Glob

/-!
# Engines for sets of patterns

Patterns that are looked for together are handed to an engine.  It may refuse
a set even if every pattern in it is valid, for engines have their limits.
-/

namespace AccessAudit

namespace Glob

/-- What runs sets of patterns. -/
class Engine where
  /-- Why a set of patterns is refused, if it is. -/
  refusal? : List Pattern → Option Text

/-! ## An engine that runs regular expressions -/

/-- How many items of a regular expression a token is written with. -/
def Token.width : Token → Nat
  | .literal c => (bytesOf c).length
  | .recursiveEnd => 2
  | .alternates branches => if vacantBranches branches then 0 else 1
  | _ => 1

/-- How deep several items nest that stand one after the other. -/
def sequenceNesting (width deepest : Nat) : Nat :=
  if 1 < width then deepest + 1 else deepest

mutual

/-- How deep the regular expression of a token nests. -/
def Token.nesting : Token → Nat
  | .literal _ | .any => 0
  | .zeroOrMore | .recursiveEnd => 1
  | .recursiveStart | .recursiveBetween => 4
  | .charClass _ ranges =>
      sequenceNesting (ranges.flatMap byteRanges).length 1
  | .alternates branches =>
      if vacantBranches branches then 0
      else
        sequenceNesting
          (branches.countP fun branch => !vacantPattern branch)
          (branchesNesting branches) + 1

/-- How deep the deepest branch nests. -/
def branchesNesting : List Pattern → Nat
  | [] => 0
  | branch :: branches =>
      max (sequenceNesting (branch.map Token.width).sum
          (tokensNesting branch))
        (branchesNesting branches)

/-- How deep the deepest of some tokens nests. -/
def tokensNesting : List Token → Nat
  | [] => 0
  | token :: tokens => max token.nesting (tokensNesting tokens)

end

/-- How deep the regular expression of a pattern nests.  It stands between
the marks for the ends of the path. -/
def nesting (pattern : Pattern) : Nat :=
  tokensNesting pattern + 1

/-- The deepest nesting that the engine takes. -/
def nestingLimit : Nat := 250

/-- The engine refuses the first pattern that nests too deep. -/
@[reducible]
def Engine.standard : Engine where
  refusal? := fun patterns =>
    (patterns.findIdx? fun pattern => nestingLimit < nesting pattern).map
      fun index => "error parsing pattern " ++ Text.ofNat index

end Glob

end AccessAudit
