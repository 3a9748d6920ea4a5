import TaintTriage.Text.Pieces

/-!
Paths of source files in normal form: empty parts and `.` parts are dropped, `..` parts stay, and
of the slashes in front one or exactly two are told apart.
-/

namespace TaintTriage

/-- A path: the number of slashes it starts with, at most two, and its parts. -/
structure SourcePath where
  slashes : Nat
  parts : List String
deriving DecidableEq, Repr

namespace SourcePath

/-- How many of the slashes in front are kept: three or more count as one. -/
def keptSlashes (s : List Char) : Nat :=
  match (s.takeWhile (· == '/')).length with
  | 0 => 0
  | 2 => 2
  | _ => 1

/-- Whether a piece between slashes is a part of the path. -/
def isPart (piece : List Char) : Bool :=
  !piece.isEmpty && piece != ['.']

def ofText (text : String) : SourcePath :=
  ⟨keptSlashes text.toList,
    ((Text.pieces '/' text.toList).filter isPart).map String.ofList⟩

/-- The text of a path; the empty path is written as a dot. -/
def toText (p : SourcePath) : String :=
  if p.slashes = 0 ∧ p.parts.isEmpty then "."
  else String.ofList (List.replicate p.slashes '/') ++ "/".intercalate p.parts

example : (ofText "./a//b/").toText = "a/b" ∧ (ofText "").toText = "." := by decide +kernel
example : (ofText "//a/../b").toText = "//a/../b" ∧ (ofText "///a").toText = "/a" := by
  decide +kernel

end SourcePath

end TaintTriage
