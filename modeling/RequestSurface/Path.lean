import RequestSurface.Text.Pieces

/-!
# Paths

Paths of segments between slashes. Empty segments and single dots are dropped, double dots are kept,
and joining an absolute path starts over at its root. Exactly two slashes in front are a root of
their own.
-/

namespace RequestSurface

/-- A path: what stands in front of its segments, and the segments. -/
structure Path where
  root : String
  segments : List String
  deriving DecidableEq, Repr, Inhabited

namespace Path

/-- The segments of a text that count. -/
def segmentsOf (text : List Char) : List String :=
  ((Text.piecesAt '/' text).map String.ofList).filter fun segment =>
    segment ≠ "" ∧ segment ≠ "."

/-- The root of a text: its leading slashes, one unless there are exactly two. -/
def rootOf (text : List Char) : String :=
  match (text.takeWhile (· == '/')).length with
  | 0 => ""
  | 2 => "//"
  | _ => "/"

/-- Read a path. -/
def ofText (text : String) : Path where
  root := rootOf text.toList
  segments := segmentsOf text.toList

/-- Go on from a path to another one. -/
def join (path : Path) (text : String) : Path :=
  let next := ofText text
  if next.root.isEmpty then { path with segments := path.segments ++ next.segments } else next

/-- Write a path. -/
def text (path : Path) : String :=
  let written := path.root ++ String.intercalate "/" path.segments
  if written.isEmpty then "." else written

/-- The ending of the last segment from its last dot on, if something stands on both sides. -/
def suffix (path : Path) : String :=
  let name := (path.segments.getLast?.getD "").toList
  let ending := name.reverse.takeWhile (· != '.')
  if ending.isEmpty ∨ name.length ≤ ending.length + 1 then ""
  else String.ofList ('.' :: ending.reverse)

end Path

end RequestSurface
